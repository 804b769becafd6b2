import GrpcCbCore.Client.SyncReaderWriter

/-! The batches of a `ClientSyncReaderWriterImpl`, and what grpc allows on one call.
`CloseWriting` and `RecvInitMdIfNot` keep a flag each; `Write` looks at neither, and
`RecvStatus` leaves no trace of itself. -/
namespace GrpcCbCore.Client.SyncReaderWriter
open GrpcCbCore.Library

def attempted (history : List (Event Note)) : CallOperations :=
  (collect Event.attempt history).flatMap CqTag.ops

/-- What a call allows behind the operations before: SEND_INITIAL_METADATA first, and
each of the others at its time. -/
def Permitted (before : CallOperations) : CallOp → Prop
  | .sendInitMd => before = []
  | .recvInitMd => before ≠ [] ∧ .recvInitMd ∉ before
  | .sendMsg _ => before ≠ [] ∧ .clientSendClose ∉ before
  | .recvMsg => before ≠ [] ∧ .recvInitMd ∈ before
  | .clientSendClose => before ≠ [] ∧ .clientSendClose ∉ before
  | .clientRecvStatus => before ≠ [] ∧ .clientRecvStatus ∉ before
  | .serverSendStatus _ => False

/-- A batch is started while the status has always been OK, and only if it is permitted;
behind `CloseWriting`, `Write` returns false. -/
def Lawful (before : List (Event Note)) : Event Note → Prop
  | .start tag _ => (∀ op ∈ tag.ops, Permitted (attempted before) op) ∧
      ∀ status, .note (.status status) ∈ before → status.ok = true
  | .note (.write _ result) => .note .closeWriting ∈ before → result = false
  | _ => True

/-- A message behind the half-close, or a second attempt to receive the status. -/
def Oversteps (s : Impl) : Label → Prop
  | .write _ _ => s.status.ok = true ∧ s.writingClosed = true
  | .recvStatus _ => s.status.ok = true ∧ .clientRecvStatus ∈ attempted s.call.log
  | _ => False

/-- An object that has kept to the protocol, its flags telling what it did. -/
structure Keeping (s : Impl) : Prop where
  law : AtEach Lawful s.call.log
  begun : attempted s.call.log ≠ []
  statuses : s.status.ok = true →
    ∀ status, .note (.status status) ∈ s.call.log → status.ok = true
  closing : .note .closeWriting ∈ s.call.log → s.writingClosed = true
  initMd : .recvInitMd ∈ attempted s.call.log → s.initMdReceived = true
  initMdDone : s.status.ok = true → s.initMdReceived = true →
    .recvInitMd ∈ attempted s.call.log
  close : .clientSendClose ∈ attempted s.call.log → s.writingClosed = true
  closeDone : s.status.ok = true → s.writingClosed = true →
    .clientSendClose ∈ attempted s.call.log

section steps

variable {grpc : Nat → Bool} {s t : Impl}

@[simp] theorem attempted_note (history : List (Event Note)) (n : Note) :
    attempted (history ++ [.note n]) = attempted history := by
  simp [attempted]

@[simp] theorem attempted_complete (history : List (Event Note)) (tag : CqTag) (success : Bool)
    (received : Received) :
    attempted (history ++ [.complete tag success received]) = attempted history := by
  simp [attempted]

@[simp] theorem attempted_start (history : List (Event Note)) (tag : CqTag) (accepted : Bool) :
    attempted (history ++ [.start tag accepted]) = attempted history ++ tag.ops := by
  simp [attempted]

theorem Keeping.note (h : Keeping s) {n : Note} (hn : ∀ status, n ≠ .status status)
    (hlaw : Lawful s.call.log (.note n)) (hclosing : n = .closeWriting → s.writingClosed = true) :
    Keeping (s.note n) where
  law := h.law.snoc hlaw
  begun := by simpa [Impl.note] using h.begun
  statuses hok status hmem := by
    refine h.statuses hok status ?_
    simpa [Impl.note, (hn status).symm] using hmem
  closing hmem := by
    have hmem' : .note .closeWriting ∈ s.call.log ∨ n = .closeWriting := by
      simpa [Impl.note, eq_comm] using hmem
    exact hmem'.elim h.closing hclosing
  initMd := by simpa [Impl.note] using h.initMd
  initMdDone := by simpa [Impl.note] using h.initMdDone
  close := by simpa [Impl.note] using h.close
  closeDone := by simpa [Impl.note] using h.closeDone

theorem Keeping.set_status (h : Keeping s) (status : Status)
    (hstatus : status.ok = true → s.status.ok = true) : Keeping (s.setStatus status) where
  law := h.law.snoc trivial
  begun := by simpa [Impl.setStatus, Impl.note] using h.begun
  statuses hok status' hmem := by
    have hmem' : .note (.status status') ∈ s.call.log ∨ status' = status := by
      simpa [Impl.setStatus, Impl.note] using hmem
    rcases hmem' with hold | rfl
    · exact h.statuses (hstatus hok) status' hold
    · exact hok
  closing := by simpa [Impl.setStatus, Impl.note] using h.closing
  initMd := by simpa [Impl.setStatus, Impl.note] using h.initMd
  initMdDone hok := by simpa [Impl.setStatus, Impl.note] using h.initMdDone (hstatus hok)
  close := by simpa [Impl.setStatus, Impl.note] using h.close
  closeDone hok := by simpa [Impl.setStatus, Impl.note] using h.closeDone (hstatus hok)

theorem Keeping.pluck (h : Keeping s) (tag : CqTag) (answer : Bool × Received) :
    Keeping (s.pluck tag answer) where
  law := h.law.snoc trivial
  begun := by simpa [Impl.pluck, Call.pluck] using h.begun
  statuses hok status hmem := by
    refine h.statuses hok status ?_
    simpa [Impl.pluck, Call.pluck] using hmem
  closing := by simpa [Impl.pluck, Call.pluck] using h.closing
  initMd := by simpa [Impl.pluck, Call.pluck] using h.initMd
  initMdDone := by simpa [Impl.pluck, Call.pluck] using h.initMdDone
  close := by simpa [Impl.pluck, Call.pluck] using h.close
  closeDone := by simpa [Impl.pluck, Call.pluck] using h.closeDone

theorem Keeping.start (grpc : Nat → Bool) (h : Keeping s) (hok : s.status.ok = true)
    (tag : CqTag) {op : CallOp} (hops : tag.ops = [op])
    (hop : Permitted (attempted s.call.log) op) :
    Keeping { s with
      initMdReceived := s.initMdReceived || decide (op = .recvInitMd)
      writingClosed := s.writingClosed || decide (op = .clientSendClose)
      call := (s.call.startBatch grpc tag).2 } where
  law := h.law.snoc ⟨by simpa [hops] using hop, h.statuses hok⟩
  begun := by simp [hops]
  statuses _ status hmem := by
    refine h.statuses hok status ?_
    simpa using hmem
  closing hmem := by
    have hmem' : .note .closeWriting ∈ s.call.log := by simpa using hmem
    simp [h.closing hmem']
  initMd := by
    simp only [Call.startBatch_log, attempted_start, hops, List.mem_append, List.mem_singleton]
    rintro (hold | rfl)
    · simp [h.initMd hold]
    · simp
  initMdDone _ := by
    simp only [Call.startBatch_log, attempted_start, hops, List.mem_append, List.mem_singleton,
      Bool.or_eq_true, decide_eq_true_eq]
    rintro (hold | rfl)
    · exact .inl (h.initMdDone hok hold)
    · exact .inr rfl
  close := by
    simp only [Call.startBatch_log, attempted_start, hops, List.mem_append, List.mem_singleton]
    rintro (hold | rfl)
    · simp [h.close hold]
    · simp
  closeDone _ := by
    simp only [Call.startBatch_log, attempted_start, hops, List.mem_append, List.mem_singleton,
      Bool.or_eq_true, decide_eq_true_eq]
    rintro (hold | rfl)
    · exact .inl (h.closeDone hok hold)
    · exact .inr rfl

theorem Keeping.batch {s : Impl} (tag : CqTag) (answer : Bool × Received) (sError : StdString)
    (h : Keeping (s.startBatch grpc tag).2) :
    Keeping (match s.startBatch grpc tag with
      | (true, s) => s.pluck tag answer
      | (false, s) => s.setInternalError sError) := by
  unfold Impl.startBatch at h ⊢
  rcases Bool.eq_false_or_eq_true (grpc s.call.starts) with hgrpc | hgrpc
  · simp only [Call.startBatch_fst, hgrpc]
    exact h.pluck tag answer
  · simp only [Call.startBatch_fst, hgrpc]
    exact h.set_status _ (by simp)

private theorem closeWriting_keeping (grpc : Nat → Bool) (h : Keeping s)
    (answer : Bool × Received) : Keeping (closeWriting grpc answer s) := by
  unfold closeWriting
  rcases Bool.eq_false_or_eq_true s.writingClosed with hclosed | hopen
  · rw [if_pos hclosed]
    exact h
  rw [if_neg (by simp [hopen])]
  rcases Bool.eq_false_or_eq_true s.status.ok with hok | hfailed
  · rw [if_neg (by simp [hok])]
    have hunsent : .clientSendClose ∉ attempted s.call.log := by
      intro hmem
      simp [h.close hmem] at hopen
    have hstart := h.start grpc hok .clientSendClose rfl ⟨h.begun, hunsent⟩
    refine Keeping.batch .clientSendClose answer _ ?_
    simpa [Impl.startBatch] using hstart
  · rw [if_pos (by simp [hfailed])]
    exact { h with closing := fun _ => rfl, close := fun _ => rfl, closeDone := by simp [hfailed] }

private theorem closeWriting_closed (grpc : Nat → Bool) (answer : Bool × Received) (s : Impl) :
    (closeWriting grpc answer s).writingClosed = true := by
  unfold closeWriting
  split
  · assumption
  · dsimp only [Impl.startBatch]
    split
    · rfl
    · split
      · next heq =>
        obtain ⟨-, rfl⟩ := Prod.mk.inj heq
        rfl
      · next heq =>
        obtain ⟨-, rfl⟩ := Prod.mk.inj heq
        rfl

private theorem recvInitMdIfNot_keeping (grpc : Nat → Bool) (h : Keeping s)
    (hok : s.status.ok = true) (answer : Bool × Received) :
    Keeping (recvInitMdIfNot grpc answer s) ∧
      (recvInitMdIfNot grpc answer s).initMdReceived = true := by
  unfold recvInitMdIfNot
  rcases Bool.eq_false_or_eq_true s.initMdReceived with hdone | hnew
  · rw [if_pos hdone]
    exact ⟨h, hdone⟩
  rw [if_neg (by simp [hnew])]
  simp only [hok, Impl.check, if_true]
  have hunasked : .recvInitMd ∉ attempted s.call.log := by
    intro hmem
    simp [h.initMd hmem] at hnew
  have hstart := h.start grpc hok .clientRecvInitMd rfl ⟨h.begun, hunasked⟩
  constructor
  · refine Keeping.batch .clientRecvInitMd answer _ ?_
    simpa [Impl.startBatch] using hstart
  · unfold Impl.startBatch
    split
    · next heq =>
      obtain ⟨-, rfl⟩ := Prod.mk.inj heq
      rfl
    · next heq =>
      obtain ⟨-, rfl⟩ := Prod.mk.inj heq
      rfl

theorem Keeping.read (h : Keeping s) (hok : s.status.ok = true)
    (hinit : s.initMdReceived = true) {answer : Bool × Received} (hread : Reads grpc answer s t) :
    Keeping t := by
  have hstart := h.start grpc hok .clientReaderRead rfl
    ⟨h.begun, h.initMdDone hok hinit⟩
  have hbegun : Keeping (s.startBatch grpc .clientReaderRead).2 := by
    simpa [Impl.startBatch] using hstart
  have hpluck := hbegun.pluck .clientReaderRead answer
  obtain rfl | rfl | ⟨status, rfl⟩ := hread
  · exact hbegun.set_status _ (by simp)
  · exact hpluck
  · exact hpluck.set_status _ fun _ => hok

private theorem readOne_keeping (grpc : Nat → Bool) (h : Keeping s)
    (initAnswer answer : Bool × Received)
    (response : StdString) : Keeping (readOne grpc initAnswer answer response s).2.2 := by
  obtain ⟨-, heq⟩ | ⟨hok, -, heq⟩ | ⟨hok, hok', hread⟩ :=
    readOne_cases grpc initAnswer answer response s
  · rw [heq]
    exact h
  · rw [heq]
    exact (recvInitMdIfNot_keeping grpc h hok initAnswer).1
  · obtain ⟨hinit, hdone⟩ := recvInitMdIfNot_keeping grpc h hok initAnswer
    exact hinit.read hok' hdone hread

private theorem recvStatus_keeping (h : Keeping s) {answer : Bool × Received}
    (hkept : ¬ Oversteps s (.recvStatus answer)) : Keeping (recvStatus grpc answer s).2 := by
  have hasked (hok : s.status.ok = true) :
      Keeping (s.startBatch grpc .clientReaderRecvStatus).2 := by
    have hunasked : .clientRecvStatus ∉ attempted s.call.log := fun hmem => hkept ⟨hok, hmem⟩
    simpa [Impl.startBatch] using
      h.start grpc hok .clientReaderRecvStatus rfl ⟨h.begun, hunasked⟩
  obtain ⟨-, heq⟩ | ⟨hok, heq⟩ | ⟨hok, heq⟩ := recvStatus_cases grpc answer s <;> rw [heq]
  · exact h
  · exact hasked hok
  · exact (hasked hok).pluck .clientReaderRecvStatus answer

private theorem write_keeping (h : Keeping s) {request : StdString} {answer : Bool × Received}
    (hkept : ¬ Oversteps s (.write request answer)) :
    Keeping (write grpc request answer s).2 ∧
      (.note .closeWriting ∈ (write grpc request answer s).2.call.log →
        (write grpc request answer s).1 = false) := by
  have hsent (hok : s.status.ok = true) :
      Keeping { s with call := (s.call.startBatch grpc (.clientSendMsg request)).2 } := by
    have hunclosed : .clientSendClose ∉ attempted s.call.log := fun hmem =>
      hkept ⟨hok, h.close hmem⟩
    simpa using h.start grpc hok (.clientSendMsg request) rfl ⟨h.begun, hunclosed⟩
  obtain ⟨-, heq⟩ | ⟨hok, -, heq⟩ | ⟨hok, -, heq⟩ := SyncWriterHelper.syncWrite_cases
    (fun status => [.status status]) grpc request answer s.call s.status <;> rw [write, heq]
  · exact ⟨h, fun _ => rfl⟩
  · refine ⟨(hsent hok).pluck (.clientSendMsg request) answer, fun hmem => ?_⟩
    have hclosing : .note .closeWriting ∈ s.call.log := by simpa [Call.pluck] using hmem
    exact absurd ⟨hok, h.closing hclosing⟩ hkept
  · exact ⟨(hsent hok).set_status
      (.internalError (lit "Failed to write client-side streaming.")) (by simp), fun _ => rfl⟩

private theorem perform_keeping (h : Keeping s) {label : Label} (hkept : ¬ Oversteps s label) :
    Keeping (perform grpc s label) := by
  cases label with
  | write request answer =>
    obtain ⟨hwritten, hfalse⟩ : Keeping (write grpc request answer s).2 ∧ _ :=
      write_keeping h hkept
    exact hwritten.note (by simp) hfalse (by simp)
  | closeWriting answer =>
    exact (closeWriting_keeping grpc h answer).note (by simp) trivial
      fun _ => closeWriting_closed grpc answer s
  | readOne initAnswer answer response =>
    exact (readOne_keeping grpc h initAnswer answer response).note (by simp) trivial (by simp)
  | recvStatus answer => exact (recvStatus_keeping h hkept).note (by simp) trivial (by simp)
  | setErrorStatus errorStatus =>
    have hset : Keeping (setErrorStatus errorStatus s) :=
      h.set_status _ fun hok => by simp [errorStatus.not_ok] at hok
    exact hset.note (by simp) trivial (by simp)
  | destroy answer =>
    have hother : ∀ status, Note.destroy ≠ .status status := by simp
    have hclosed := (closeWriting_keeping grpc h answer).note hother trivial (by simp)
    exact { hclosed with }

/-- A batch that is not permitted breaks the law. -/
theorem not_lawful_of_start {history more : List (Event Note)} {tag : CqTag} {accepted : Bool}
    (op : CallOp) (hop : op ∈ tag.ops) (hbad : ¬ Permitted (attempted history) op) :
    ¬ AtEach Lawful (history ++ .start tag accepted :: more) :=
  fun hlaw => hbad ((hlaw history _ more rfl).1 op hop)

private theorem perform_oversteps (h : Keeping s) {label : Label} (hbad : Oversteps s label) :
    ¬ AtEach Lawful (perform grpc s label).call.log := by
  cases label with
  | write request answer =>
    obtain ⟨hok, hclosed⟩ := hbad
    have hlog : ∃ more, (perform grpc s (.write request answer)).call.log =
        s.call.log ++ .start (.clientSendMsg request) (grpc s.call.starts) :: more := by
      obtain ⟨hfailed, -⟩ | ⟨-, -, heq⟩ | ⟨-, -, heq⟩ := SyncWriterHelper.syncWrite_cases
        (fun status => [.status status]) grpc request answer s.call s.status
      · simp [hok] at hfailed
      · simp [perform, write, heq, Call.pluck, Impl.note]
      · simp [perform, write, heq, Impl.note]
    obtain ⟨more, hlog⟩ := hlog
    rw [hlog]
    exact not_lawful_of_start (.sendMsg request) (by simp [CqTag.ops])
      fun hpermitted => hpermitted.2 (h.closeDone hok hclosed)
  | recvStatus answer =>
    obtain ⟨hok, hasked⟩ := hbad
    have hlog : ∃ more, (perform grpc s (.recvStatus answer)).call.log =
        s.call.log ++ .start .clientReaderRecvStatus (grpc s.call.starts) :: more := by
      obtain ⟨hfailed, -⟩ | ⟨-, heq⟩ | ⟨-, heq⟩ := recvStatus_cases grpc answer s
      · simp [hok] at hfailed
      · simp [perform, heq, Impl.startBatch, Impl.note]
      · simp [perform, heq, Impl.startBatch, Impl.pluck, Call.pluck, Impl.note]
    obtain ⟨more, hlog⟩ := hlog
    rw [hlog]
    exact not_lawful_of_start .clientRecvStatus (by simp [CqTag.ops])
      fun hpermitted => hpermitted.2 hasked
  | _ => exact absurd hbad id

private theorem init_keeping (grpc : Nat → Bool) (init : Bool × Received) :
    Keeping (clientSyncReaderWriterImpl grpc init) := by
  refine Keeping.batch .clientSendInitMd init _ ?_
  have hlaw : AtEach Lawful ([] ++ [.start .clientSendInitMd (grpc 0)]) := by
    refine AtEach.nil.snoc ⟨?_, by simp⟩
    simp [CqTag.ops, Permitted, attempted]
  rw [List.nil_append] at hlaw
  constructor <;> simp [Impl.startBatch, Call.startBatch, hlaw, attempted, CqTag.ops]

end steps

/-- The object keeps to the protocol, and refuses each `Write` behind `CloseWriting`, just as
long as no message is written behind the half-close, and the status is asked for once. -/
theorem protocol_iff {grpc : Nat → Bool} {init : Bool × Received} {ls : List Label} {s : Impl}
    (hrun : (machine grpc).run (clientSyncReaderWriterImpl grpc init) ls = some s) :
    (machine grpc).Throughout (fun s => AtEach Lawful s.call.log)
        (clientSyncReaderWriterImpl grpc init) ls ↔
      (machine grpc).Along (fun s label => ¬ Oversteps s label)
        (clientSyncReaderWriterImpl grpc init) ls := by
  refine Machine.throughout_iff_along (I := Keeping) (fun _ h => h.law) ?_ ?_
    (init_keeping grpc init) hrun
  · rintro s label t h hkept hstep
    rw [step_eq hstep]
    exact perform_keeping h hkept
  · rintro s label t h hbad hstep
    rw [step_eq hstep]
    exact perform_oversteps h (not_not.mp hbad)

/-- A message each way, and the status. -/
def exchangeLabels : List Label :=
  [.write [1] (true, {}), .closeWriting (true, {}),
    .readOne (true, {}) (true, { recvBuf := some (.readable [2]) }) [], .recvStatus (true, {}),
    .destroy (true, {})]

theorem protocol_exchange :
    (machine fun _ => true).Throughout (fun s => AtEach Lawful s.call.log)
      (clientSyncReaderWriterImpl (fun _ => true) (true, {})) exchangeLabels := by
  have hrun : (machine fun _ => true).run (clientSyncReaderWriterImpl (fun _ => true) (true, {}))
      exchangeLabels = some _ := rfl
  refine (protocol_iff hrun).mpr ?_
  rw [exchangeLabels, Machine.along_cons rfl, Machine.along_cons rfl, Machine.along_cons rfl,
    Machine.along_cons rfl, Machine.along_cons rfl]
  refine ⟨?_, id, id, ?_, id, Machine.along_nil _ _⟩
  · rintro ⟨-, hclosed⟩
    cases hclosed
  · rintro ⟨-, hasked⟩
    revert hasked
    decide

/-- SEND_MESSAGE behind SEND_CLOSE_FROM_CLIENT, and RECV_STATUS_ON_CLIENT twice. -/
theorem protocol_overstepped :
    (∃ s, (machine fun _ => true).run (clientSyncReaderWriterImpl (fun _ => true) (true, {}))
        [.closeWriting (true, {}), .write [1] (true, {})] = some s ∧
      attempted s.call.log = [.sendInitMd, .clientSendClose, .sendMsg [1]]) ∧
    ∃ s, (machine fun _ => true).run (clientSyncReaderWriterImpl (fun _ => true) (true, {}))
        [.recvStatus (true, {}), .recvStatus (true, {})] = some s ∧
      attempted s.call.log = [.sendInitMd, .clientRecvStatus, .clientRecvStatus] :=
  ⟨⟨_, rfl, rfl⟩, _, rfl, rfl⟩

end GrpcCbCore.Client.SyncReaderWriter
