import GrpcCbCore.Client.SyncReaderWriter
import GrpcCbCore.Client.SyncWriter

/-! The synchronous writes and a message that was not delivered. `SyncWrite` waits for
its batch and does not look at what it came to. -/
namespace GrpcCbCore.Client
open GrpcCbCore.Library

namespace SyncWriter
open SyncWriterHelper (Reports Telling)

def returns : SyncWriterHelper.Returns Note where
  wrote
    | .write request result => some (request, result)
    | _ => none
  reported
    | .close status _ => some status
    | _ => none

/-- A message is accepted whose batch is to complete without success. -/
def Loses (grpc : Nat → Bool) (d : Data) : Label → Prop
  | .write _ answer => SyncWriterHelper.Loses grpc answer d.call d.status
  | .close _ _ => False

variable {grpc : Nat → Bool} {d t : Data}

private theorem close_telling (grpc : Nat → Bool) (h : Telling returns d.call d.status)
    (answer : Bool × Received) (response : StdString) :
    Telling returns (close grpc answer response d).2.call
        (close grpc answer response d).2.status ∧
      ∀ returned, (close grpc answer response d).1 = some returned →
        returned.1 = (close grpc answer response d).2.status := by
  have hpluck (hok : d.status.ok = true) : Telling returns
      ((d.call.startBatch grpc .clientWriterClose).2.pluck .clientWriterClose answer) d.status :=
    (h.start hok .clientWriterClose rfl).pluck hok .clientWriterClose rfl answer
  obtain ⟨-, heq⟩ | ⟨hok, status, response', call, heq, hcall⟩ | ⟨hok, -, -, heq⟩ :=
    close_starts grpc answer response d <;> rw [heq]
  · exact ⟨h, by simp⟩
  · have hclosed : Telling returns call d.status := by
      rcases hcall with ⟨rfl, -⟩ | ⟨rfl, -⟩
      · exact h.start hok _ rfl
      · exact hpluck hok
    exact ⟨hclosed.assign (by simp [hok]), by simp⟩
  · exact ⟨(hpluck hok).note rfl (by simp [returns]), by simp⟩

private theorem step_telling (h : Telling returns d.call d.status) {label : Label}
    (hkept : ¬ Loses grpc d label) (hstep : step grpc d label = some t) :
    Telling returns t.call t.status := by
  cases label with
  | write request answer =>
    obtain rfl := step_write hstep
    exact SyncWriterHelper.syncWrite_telling h hkept (fun _ => []) (by simp) (.write request)
      (fun _ => rfl) fun _ => rfl
  | close answer response =>
    obtain ⟨hclose, hstatus⟩ := close_telling grpc h answer response
    rcases step_close hstep with ⟨status, response', d', heq, rfl⟩ | heq
    · rw [heq] at hclose hstatus
      refine hclose.note rfl fun st hst hfailed => ?_
      obtain rfl : status = st := Option.some.inj hst
      have hsame : status = d'.status := hstatus _ rfl
      rw [hsame]
      exact hfailed
    · rw [heq] at hclose
      exact hclose

private theorem step_loses {label : Label} (hloses : Loses grpc d label)
    (hstep : step grpc d label = some t) : ¬ Reports returns t.call t.status := by
  cases label with
  | write request answer =>
    obtain rfl := step_write hstep
    exact fun hreports => SyncWriterHelper.syncWrite_loses hloses (fun _ => [])
      (.write request) (fun _ => rfl) hreports.law
  | close answer response => exact absurd hloses id

private theorem init_telling (grpc : Nat → Bool) (init : Bool × Received) :
    Telling returns (clientSyncWriter grpc init).call (clientSyncWriter grpc init).status := by
  have hfresh : Telling returns {} .OK :=
    ⟨⟨AtEach.nil, by simp⟩, fun request ⟨before, received, hlog⟩ => by simp at hlog⟩
  have hstart : Telling returns (({} : Call Note).startBatch grpc .clientSendInitMd).2 .OK :=
    hfresh.start rfl _ rfl
  unfold clientSyncWriter
  simp only [Data.startBatch, Call.startBatch_fst]
  rcases Bool.eq_false_or_eq_true (grpc 0) with hgrpc | hgrpc
  · simp only [hgrpc]
    exact hstart.pluck rfl _ rfl init
  · simp only [hgrpc]
    exact hstart.assign (by simp)

private theorem run_reports_iff {init : Bool × Received} {ls : List Label}
    (hrun : (machine grpc).run (clientSyncWriter grpc init) ls = some t) :
    (machine grpc).Throughout (fun d => Reports returns d.call d.status)
        (clientSyncWriter grpc init) ls ↔
      (machine grpc).Along (fun d label => ¬ Loses grpc d label)
        (clientSyncWriter grpc init) ls :=
  Machine.throughout_iff_along (fun _ h => h.toReports)
    (fun _ _ _ h hkept hstep => step_telling h hkept hstep)
    (fun _ _ _ _ hloses hstep => step_loses (not_not.mp hloses) hstep)
    (init_telling grpc init) hrun

end SyncWriter

namespace SyncReaderWriter
open SyncWriterHelper (Reports Telling)

def returns : SyncWriterHelper.Returns Note where
  wrote
    | .write request result => some (request, result)
    | _ => none
  reported
    | .recvStatus status => some status
    | _ => none

/-- A message is accepted whose batch is to complete without success. -/
def Loses (grpc : Nat → Bool) (s : Impl) : Label → Prop
  | .write _ answer => SyncWriterHelper.Loses grpc answer s.call s.status
  | _ => False

section specs

variable {grpc : Nat → Bool} {s t : Impl}

def Tell (s : Impl) : Prop := Telling returns s.call s.status

theorem Tell.note (h : Tell s) {n : Note} (hwrote : returns.wrote n = none)
    (hreported : returns.reported n = none) : Tell (s.note n) :=
  Telling.note h hwrote (by simp [hreported])

theorem Tell.set_status (h : Tell s) {status : Status}
    (hstatus : s.status.ok = false → status.ok = false) : Tell (s.setStatus status) :=
  Telling.assign (h.note rfl rfl) hstatus

theorem Tell.batch (h : Tell s) (hok : s.status.ok = true) (tag : CqTag)
    (hmessage : tag.message? = none) (answer : Bool × Received) (sError : StdString) :
    Tell (match s.startBatch grpc tag with
      | (true, s) => s.pluck tag answer
      | (false, s) => s.setInternalError sError) := by
  have hstart : Tell (s.startBatch grpc tag).2 := Telling.start h hok tag hmessage
  unfold Impl.startBatch at hstart ⊢
  rcases Bool.eq_false_or_eq_true (grpc s.call.starts) with hgrpc | hgrpc
  · simp only [Call.startBatch_fst, hgrpc]
    exact Telling.pluck hstart hok tag hmessage answer
  · simp only [Call.startBatch_fst, hgrpc]
    exact hstart.set_status fun _ => rfl

private theorem closeWriting_tell (grpc : Nat → Bool) (h : Tell s) (answer : Bool × Received) :
    Tell (closeWriting grpc answer s) := by
  unfold closeWriting
  split
  · exact h
  rcases Bool.eq_false_or_eq_true s.status.ok with hok | hfailed
  · rw [if_neg (by simp [hok])]
    exact Tell.batch (s := { s with writingClosed := true }) h hok .clientSendClose rfl answer _
  · rw [if_pos (by simp [hfailed])]
    exact h

private theorem recvInitMdIfNot_tell (grpc : Nat → Bool) (h : Tell s) (hok : s.status.ok = true)
    (answer : Bool × Received) : Tell (recvInitMdIfNot grpc answer s) := by
  unfold recvInitMdIfNot
  split
  · exact h
  · simp only [hok, Impl.check, if_true]
    exact Tell.batch (s := { s with initMdReceived := true }) h hok .clientRecvInitMd rfl answer _

theorem Tell.read (h : Tell s) (hok : s.status.ok = true) {answer : Bool × Received}
    (hread : Reads grpc answer s t) : Tell t := by
  have hstart : Tell (s.startBatch grpc .clientReaderRead).2 := Telling.start h hok _ rfl
  have hpluck : Tell ((s.startBatch grpc .clientReaderRead).2.pluck .clientReaderRead answer) :=
    Telling.pluck hstart hok .clientReaderRead rfl answer
  obtain rfl | rfl | ⟨status, rfl⟩ := hread
  · exact hstart.set_status fun _ => rfl
  · exact hpluck
  · exact hpluck.set_status (by simp [Impl.pluck, Impl.startBatch, hok])

private theorem readOne_tell (grpc : Nat → Bool) (h : Tell s) (initAnswer answer : Bool × Received)
    (response : StdString) : Tell (readOne grpc initAnswer answer response s).2.2 := by
  obtain ⟨-, heq⟩ | ⟨hok, -, heq⟩ | ⟨hok, hok', hread⟩ :=
    readOne_cases grpc initAnswer answer response s
  · rw [heq]
    exact h
  · rw [heq]
    exact recvInitMdIfNot_tell grpc h hok initAnswer
  · exact (recvInitMdIfNot_tell grpc h hok initAnswer).read hok' hread

private theorem recvStatus_tell (grpc : Nat → Bool) (h : Tell s) (answer : Bool × Received) :
    Tell (recvStatus grpc answer s).2 ∧
      ((recvStatus grpc answer s).2.status.ok = false →
        (recvStatus grpc answer s).1.ok = false) := by
  have hstart (hok : s.status.ok = true) : Tell (s.startBatch grpc .clientReaderRecvStatus).2 :=
    Telling.start h hok _ rfl
  obtain ⟨-, heq⟩ | ⟨hok, heq⟩ | ⟨hok, heq⟩ := recvStatus_cases grpc answer s <;> rw [heq]
  · exact ⟨h, id⟩
  · exact ⟨hstart hok, fun _ => rfl⟩
  · exact ⟨Telling.pluck (hstart hok) hok .clientReaderRecvStatus rfl answer,
      by simp [Impl.pluck, Impl.startBatch, hok]⟩

private theorem write_eq (grpc : Nat → Bool) (request : StdString) (answer : Bool × Received)
    (s : Impl) : perform grpc s (.write request answer) = { s with
      call := (SyncWriterHelper.syncWrite (fun status => [.status status]) grpc request answer
        s.call s.status).2.1.note (.write request (SyncWriterHelper.syncWrite
          (fun status => [.status status]) grpc request answer s.call s.status).1)
      status := (SyncWriterHelper.syncWrite (fun status => [.status status]) grpc request answer
        s.call s.status).2.2 } := rfl

private theorem perform_tell (h : Tell s) {label : Label} (hkept : ¬ Loses grpc s label) :
    Tell (perform grpc s label) := by
  cases label with
  | write request answer =>
    rw [write_eq]
    exact SyncWriterHelper.syncWrite_telling h hkept (fun status => [.status status])
      (by simp [returns]) (.write request) (fun _ => rfl) fun _ => rfl
  | closeWriting answer => exact (closeWriting_tell grpc h answer).note rfl rfl
  | readOne initAnswer answer response =>
    exact (readOne_tell grpc h initAnswer answer response).note rfl rfl
  | recvStatus answer =>
    obtain ⟨htell, hreported⟩ := recvStatus_tell grpc h answer
    refine Telling.note htell rfl fun status hstatus hfailed => ?_
    have hreturned : (recvStatus grpc answer s).1 = status := Option.some.inj hstatus
    rw [← hreturned]
    exact hreported hfailed
  | setErrorStatus errorStatus =>
    exact (h.set_status fun _ => errorStatus.not_ok).note rfl rfl
  | destroy answer => exact (closeWriting_tell grpc h answer).note rfl rfl

private theorem perform_loses {label : Label} (hloses : Loses grpc s label) :
    ¬ Reports returns (perform grpc s label).call (perform grpc s label).status := by
  cases label with
  | write request answer =>
    rw [write_eq]
    exact fun hreports => SyncWriterHelper.syncWrite_loses hloses (fun status => [.status status])
      (.write request) (fun _ => rfl) hreports.law
  | _ => exact absurd hloses id

private theorem init_tell (grpc : Nat → Bool) (init : Bool × Received) :
    Tell (clientSyncReaderWriterImpl grpc init) := by
  have hfresh : Tell {} :=
    ⟨⟨AtEach.nil, by simp⟩, fun request ⟨before, received, hlog⟩ => by simp at hlog⟩
  exact hfresh.batch rfl .clientSendInitMd rfl init _

private theorem run_reports_iff {init : Bool × Received} {ls : List Label}
    (hrun : (machine grpc).run (clientSyncReaderWriterImpl grpc init) ls = some t) :
    (machine grpc).Throughout (fun s => Reports returns s.call s.status)
        (clientSyncReaderWriterImpl grpc init) ls ↔
      (machine grpc).Along (fun s label => ¬ Loses grpc s label)
        (clientSyncReaderWriterImpl grpc init) ls := by
  refine Machine.throughout_iff_along (I := Tell) (fun _ h => h.toReports) ?_ ?_
    (init_tell grpc init) hrun
  · rintro s label t h hkept hstep
    rw [step_eq hstep]
    exact perform_tell h hkept
  · rintro s label t h hloses hstep
    rw [step_eq hstep]
    exact perform_loses (not_not.mp hloses)

end specs

end SyncReaderWriter

/-- Both classes report what becomes of their messages just as long as no accepted one
completes without success. -/
theorem sync_writes_report_iff (grpc : Nat → Bool) (init : Bool × Received) :
    (∀ ls d, (SyncWriter.machine grpc).run (SyncWriter.clientSyncWriter grpc init) ls = some d →
      ((SyncWriter.machine grpc).Throughout
          (fun d => SyncWriterHelper.Reports SyncWriter.returns d.call d.status)
          (SyncWriter.clientSyncWriter grpc init) ls ↔
        (SyncWriter.machine grpc).Along (fun d label => ¬ SyncWriter.Loses grpc d label)
          (SyncWriter.clientSyncWriter grpc init) ls)) ∧
    ∀ ls s, (SyncReaderWriter.machine grpc).run
        (SyncReaderWriter.clientSyncReaderWriterImpl grpc init) ls = some s →
      ((SyncReaderWriter.machine grpc).Throughout
          (fun s => SyncWriterHelper.Reports SyncReaderWriter.returns s.call s.status)
          (SyncReaderWriter.clientSyncReaderWriterImpl grpc init) ls ↔
        (SyncReaderWriter.machine grpc).Along
          (fun s label => ¬ SyncReaderWriter.Loses grpc s label)
          (SyncReaderWriter.clientSyncReaderWriterImpl grpc init) ls) :=
  ⟨fun _ _ hrun => SyncWriter.run_reports_iff hrun,
    fun _ _ hrun => SyncReaderWriter.run_reports_iff hrun⟩

/-- A message is delivered, and the next one is refused. -/
def thirdRefused (k : Nat) : Bool := k != 2

theorem sync_writes_report_refusal :
    (SyncWriter.machine thirdRefused).Throughout
      (fun d => SyncWriterHelper.Reports SyncWriter.returns d.call d.status)
      (SyncWriter.clientSyncWriter thirdRefused (true, {}))
      [.write [1] (true, {}), .write [2] (true, {}), .close (true, {}) []] ∧
    (SyncReaderWriter.machine thirdRefused).Throughout
      (fun s => SyncWriterHelper.Reports SyncReaderWriter.returns s.call s.status)
      (SyncReaderWriter.clientSyncReaderWriterImpl thirdRefused (true, {}))
      [.write [1] (true, {}), .write [2] (true, {}), .recvStatus (true, {})] := by
  have hrun : (SyncWriter.machine thirdRefused).run
      (SyncWriter.clientSyncWriter thirdRefused (true, {}))
      [.write [1] (true, {}), .write [2] (true, {}), .close (true, {}) []] = some _ := rfl
  have hrun' : (SyncReaderWriter.machine thirdRefused).run
      (SyncReaderWriter.clientSyncReaderWriterImpl thirdRefused (true, {}))
      [.write [1] (true, {}), .write [2] (true, {}), .recvStatus (true, {})] = some _ := rfl
  constructor
  · refine ((sync_writes_report_iff thirdRefused (true, {})).1 _ _ hrun).mpr ?_
    rw [Machine.along_cons rfl, Machine.along_cons rfl, Machine.along_cons rfl]
    refine ⟨?_, ?_, id, Machine.along_nil _ _⟩
    · rintro ⟨-, -, hlost⟩
      cases hlost
    · rintro ⟨-, -, hlost⟩
      cases hlost
  · refine ((sync_writes_report_iff thirdRefused (true, {})).2 _ _ hrun').mpr ?_
    rw [Machine.along_cons rfl, Machine.along_cons rfl, Machine.along_cons rfl]
    refine ⟨?_, ?_, id, Machine.along_nil _ _⟩
    · rintro ⟨-, -, hlost⟩
      cases hlost
    · rintro ⟨-, -, hlost⟩
      cases hlost

/-- A message that is not delivered: `Write` returns true, and the next one is sent. -/
theorem lost_write_returns_true :
    (∃ d, (SyncWriter.machine fun _ => true).run
        (SyncWriter.clientSyncWriter (fun _ => true) (true, {}))
        [.write [1] (false, {}), .write [2] (true, {})] = some d ∧
      .note (.write [1] true) ∈ d.call.log ∧ d.status.ok = true ∧
      .start (.clientSendMsg [2]) true ∈ d.call.log) ∧
    ∃ s, (SyncReaderWriter.machine fun _ => true).run
        (SyncReaderWriter.clientSyncReaderWriterImpl (fun _ => true) (true, {}))
        [.write [1] (false, {}), .write [2] (true, {})] = some s ∧
      .note (.write [1] true) ∈ s.call.log ∧ s.status.ok = true ∧
      .start (.clientSendMsg [2]) true ∈ s.call.log :=
  ⟨⟨_, rfl, by decide, rfl, by decide⟩, _, rfl, by decide, rfl, by decide⟩

end GrpcCbCore.Client
