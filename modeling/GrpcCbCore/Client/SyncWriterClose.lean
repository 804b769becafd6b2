import GrpcCbCore.Client.SyncWriter

/-! Closing a `ClientSyncWriter`. A close that has gone well leaves the writer as an open
one: only an error in its status would tell. -/
namespace GrpcCbCore.Client.SyncWriter
open GrpcCbCore.Library

/-- Behind a close batch no batch is started, and each `Close` returns what the first one
returned. -/
def ClosesOnce (before : List (Event Note)) : Event Note → Prop
  | .start _ _ => .clientWriterClose ∉ collect Event.attempt before
  | .note (.close status _) =>
      ∀ first, (collect closeReturn before).head? = some first → status = first
  | _ => True

/-- A call on a writer that was closed, and has no error. -/
def GoesOn (d : Data) : Prop :=
  d.status.ok = true ∧ .clientWriterClose ∈ collect Event.attempt d.call.log

/-- A writer that has closed once at most: its status is what `Close` has returned. -/
structure Closing (d : Data) : Prop where
  law : AtEach ClosesOnce d.call.log
  returned : ∀ first, (collect closeReturn d.call.log).head? = some first →
    d.status = first ∧
      (first.ok = true → .clientWriterClose ∈ collect Event.attempt d.call.log)

section steps

variable {grpc : Nat → Bool} {d t : Data}

theorem Closing.unreturned (h : Closing d) (hok : d.status.ok = true) (hkept : ¬ GoesOn d) :
    collect closeReturn d.call.log = [] := by
  cases hreturns : collect closeReturn d.call.log with
  | nil => rfl
  | cons first rest =>
    obtain ⟨hstatus, hclosed⟩ := h.returned first (by simp [hreturns])
    rw [hstatus] at hok
    exact absurd ⟨by rw [hstatus]; exact hok, hclosed hok⟩ hkept

def Idle (e : Event Note) : Prop := Event.attempt e = none ∧ closeReturn e = none

theorem Idle.lawful {e : Event Note} (h : Idle e) (before : List (Event Note)) :
    ClosesOnce before e := by
  obtain ⟨hattempt, hreturn⟩ := h
  rcases e with _ | _ | n
  · simp at hattempt
  · trivial
  · cases n with
    | close => simp at hreturn
    | _ => trivial

theorem Closing.batch (h : Closing d) (hok : d.status.ok = true) (hkept : ¬ GoesOn d)
    (tag : CqTag) {accepted : Bool} {more : List (Event Note)} (hmore : ∀ e ∈ more, Idle e) :
    AtEach ClosesOnce (d.call.log ++ .start tag accepted :: more) ∧
      collect closeReturn (d.call.log ++ .start tag accepted :: more) = [] ∧
      tag ∈ collect Event.attempt (d.call.log ++ .start tag accepted :: more) := by
  have hunclosed : .clientWriterClose ∉ collect Event.attempt d.call.log := fun hmem =>
    hkept ⟨hok, hmem⟩
  have hstart : AtEach ClosesOnce (d.call.log ++ [.start tag accepted]) := h.law.snoc hunclosed
  have hnone : collect closeReturn more = [] := collect_eq_nil _ _ fun e he => (hmore e he).2
  refine ⟨?_, by simp [h.unreturned hok hkept, hnone], by simp⟩
  simpa using hstart.append fun e he before => (hmore e he).lawful before

private theorem write_cases (grpc : Nat → Bool) (d : Data) (request : StdString)
    (answer : Bool × Received) :
    (d.status.ok = false ∧ write grpc request answer d = (false, d)) ∨
    (d.status.ok = true ∧ ∃ more, (∀ e ∈ more, Idle e) ∧
      (write grpc request answer d).2.call.log = d.call.log ++
        .start (.clientSendMsg request) (grpc d.call.starts) :: more) := by
  obtain ⟨hfailed, heq⟩ | ⟨hok, hgrpc, heq⟩ | ⟨hok, hgrpc, heq⟩ :=
    SyncWriterHelper.syncWrite_cases (fun _ => []) grpc request answer d.call d.status
  · exact .inl ⟨hfailed, by rw [write, heq]⟩
  · refine .inr ⟨hok, [.complete (.clientSendMsg request) answer.1 answer.2], by simp [Idle], ?_⟩
    rw [write, heq]
    simp [Call.pluck]
  · refine .inr ⟨hok, [], by simp, ?_⟩
    rw [write, heq]
    simp

private theorem close_live (grpc : Nat → Bool) (hok : d.status.ok = true) (answer : Bool × Received)
    (response : StdString) :
    (∀ returned, (close grpc answer response d).1 = some returned →
      (close grpc answer response d).2.status = returned.1) ∧
    ∃ more, (∀ e ∈ more, Idle e) ∧
      (close grpc answer response d).2.call.log = d.call.log ++
        .start .clientWriterClose (grpc d.call.starts) :: more := by
  obtain ⟨hfailed, -⟩ | ⟨-, status, response', call, heq, hcall⟩ | ⟨-, -, -, heq⟩ :=
    close_starts grpc answer response d
  · simp [hok] at hfailed
  · rw [heq]
    refine ⟨fun returned hreturned => ?_, ?_⟩
    · cases hreturned
      rfl
    · rcases hcall with ⟨rfl, -⟩ | ⟨rfl, -⟩
      · exact ⟨[], by simp, by simp⟩
      · exact ⟨[.complete .clientWriterClose answer.1 answer.2], by simp [Idle],
          by simp [Call.pluck]⟩
  · rw [heq]
    exact ⟨by simp, [.complete .clientWriterClose answer.1 answer.2,
      .note (.fault .getResultMsgRecvBuf)], by simp [Idle], by simp [Call.pluck]⟩

private theorem step_closing (h : Closing d) {label : Label} (hkept : ¬ GoesOn d)
    (hstep : step grpc d label = some t) : Closing t := by
  cases label with
  | write request answer =>
    obtain rfl := step_write hstep
    rcases write_cases grpc d request answer with ⟨-, heq⟩ | ⟨hok, more, hmore, hlog⟩
    · rw [heq]
      exact ⟨h.law.snoc trivial, by simpa [Data.note] using h.returned⟩
    · obtain ⟨hlaw, hnone, -⟩ := h.batch hok hkept _ hmore
      rw [← hlog] at hlaw hnone
      refine ⟨hlaw.snoc trivial, fun first hfirst => ?_⟩
      simp [Data.note, hnone] at hfirst
  | close answer response =>
    rcases Bool.eq_false_or_eq_true d.status.ok with hok | hfailed
    · obtain ⟨hstatus, more, hmore, hlog⟩ := close_live grpc hok answer response
      obtain ⟨hlaw, hnone, hmem⟩ := h.batch hok hkept _ hmore
      rw [← hlog] at hlaw hnone hmem
      rcases step_close hstep with ⟨status, response', d', heq, rfl⟩ | heq
      · rw [heq] at hlaw hnone hmem hstatus
        refine ⟨hlaw.snoc fun first hfirst => by simp [hnone] at hfirst, fun first hfirst => ?_⟩
        obtain rfl : status = first := by simpa [Data.note, hnone] using hfirst
        exact ⟨hstatus _ rfl, fun _ => by simpa [Data.note] using hmem⟩
      · rw [heq] at hlaw hnone
        exact ⟨hlaw, by simp [hnone]⟩
    · have heq : close grpc answer response d = (some (d.status, response), d) := by
        simp [close, hfailed]
      obtain rfl := step_close_returns hstep heq
      refine ⟨h.law.snoc fun first hfirst => (h.returned first hfirst).1,
        fun first hfirst => ?_⟩
      cases hreturns : collect closeReturn d.call.log with
      | nil =>
        obtain rfl : d.status = first := by simpa [Data.note, hreturns] using hfirst
        exact ⟨rfl, fun hok => by simp [hfailed] at hok⟩
      | cons old rest =>
        obtain rfl : old = first := by simpa [Data.note, hreturns] using hfirst
        simpa [Data.note] using h.returned old (by simp [hreturns])

private theorem not_closesOnce_of_start {history more : List (Event Note)} {tag : CqTag}
    {accepted : Bool} (hclosed : .clientWriterClose ∈ collect Event.attempt history) :
    ¬ AtEach ClosesOnce (history ++ .start tag accepted :: more) :=
  fun hlaw => hlaw history _ more rfl hclosed

private theorem step_goesOn {label : Label} (hbad : GoesOn d) (hstep : step grpc d label = some t) :
    ¬ AtEach ClosesOnce t.call.log := by
  obtain ⟨hok, hclosed⟩ := hbad
  cases label with
  | write request answer =>
    obtain rfl := step_write hstep
    rcases write_cases grpc d request answer with ⟨hfailed, -⟩ | ⟨-, more, -, hlog⟩
    · simp [hok] at hfailed
    · simp only [Data.note, Call.note_log, hlog, List.append_assoc, List.cons_append]
      exact not_closesOnce_of_start hclosed
  | close answer response =>
    obtain ⟨-, more, -, hlog⟩ := close_live grpc hok answer response
    rcases step_close hstep with ⟨status, response', d', heq, rfl⟩ | heq
    · simp only [heq] at hlog
      simp only [Data.note, Call.note_log, hlog, List.append_assoc, List.cons_append]
      exact not_closesOnce_of_start hclosed
    · rw [heq] at hlog
      rw [hlog]
      exact not_closesOnce_of_start hclosed

private theorem init_closing (grpc : Nat → Bool) (init : Bool × Received) :
    Closing (clientSyncWriter grpc init) := by
  have hfresh : Closing {} := ⟨.nil, by simp⟩
  have hkept : ¬ GoesOn {} := by
    rintro ⟨-, hmem⟩
    simp at hmem
  have hlog : ∃ accepted more, (∀ e ∈ more, Idle e) ∧ (clientSyncWriter grpc init).call.log =
      [] ++ .start .clientSendInitMd accepted :: more := by
    unfold clientSyncWriter
    simp only [Data.startBatch, Call.startBatch_fst]
    rcases Bool.eq_false_or_eq_true (grpc 0) with hgrpc | hgrpc
    · simp only [hgrpc]
      exact ⟨true, [.complete .clientSendInitMd init.1 init.2], by simp [Idle],
        by simp [Data.pluck, Call.pluck, hgrpc]⟩
    · simp only [hgrpc]
      exact ⟨false, [], by simp, by simp [Data.setInternalError, hgrpc]⟩
  obtain ⟨accepted, more, hmore, hlog⟩ := hlog
  obtain ⟨hlaw, hnone, -⟩ := hfresh.batch rfl hkept .clientSendInitMd hmore
  rw [← hlog] at hlaw hnone
  exact ⟨hlaw, by simp [hnone]⟩

end steps

/-- Copies of a writer close it once just as long as none of them calls it again behind
a close batch that has left its status OK. -/
theorem closes_once_iff {grpc : Nat → Bool} {init : Bool × Received} {ls : List Label} {d : Data}
    (hrun : (machine grpc).run (clientSyncWriter grpc init) ls = some d) :
    (machine grpc).Throughout (fun d => AtEach ClosesOnce d.call.log)
        (clientSyncWriter grpc init) ls ↔
      (machine grpc).Along (fun d _ => ¬ GoesOn d) (clientSyncWriter grpc init) ls :=
  Machine.throughout_iff_along (fun _ h => h.law)
    (fun _ _ _ h hkept hstep => step_closing h hkept hstep)
    (fun _ _ _ _ hbad hstep => step_goesOn (not_not.mp hbad) hstep)
    (init_closing grpc init) hrun

/-- An error of the server, returned by two copies. -/
def twiceClosed : List Label :=
  [.write [1] (true, {}), .close (true, { status := .internalError [2] }) [],
    .close (true, {}) []]

theorem closes_once_error :
    (machine fun _ => true).Throughout (fun d => AtEach ClosesOnce d.call.log)
      (clientSyncWriter (fun _ => true) (true, {})) twiceClosed := by
  have hrun : (machine fun _ => true).run (clientSyncWriter (fun _ => true) (true, {}))
      twiceClosed = some _ := rfl
  refine (closes_once_iff hrun).mpr ?_
  rw [twiceClosed, Machine.along_cons rfl, Machine.along_cons rfl, Machine.along_cons rfl]
  refine ⟨?_, ?_, ?_, Machine.along_nil _ _⟩
  · rintro ⟨-, hclosed⟩
    revert hclosed
    decide
  · rintro ⟨-, hclosed⟩
    revert hclosed
    decide
  · rintro ⟨hok, -⟩
    cases hok

/-- A close that goes well, and grpc refuses what comes behind it. -/
def refusesBehindClose (k : Nat) : Bool := k < 2

theorem closes_twice :
    (∃ d, (machine refusesBehindClose).run (clientSyncWriter refusesBehindClose (true, {}))
        [.close (true, { recvBuf := some (.readable [1]) }) [], .close (true, {}) []] = some d ∧
      collect Event.attempt d.call.log =
        [.clientSendInitMd, .clientWriterClose, .clientWriterClose] ∧
      collect closeReturn d.call.log =
        [.OK, .internalError (lit "Failed to finish client-side streaming.")]) ∧
    ∃ d, (machine refusesBehindClose).run (clientSyncWriter refusesBehindClose (true, {}))
        [.close (true, { recvBuf := some (.readable [1]) }) [], .write [2] (true, {})] = some d ∧
      collect Event.attempt d.call.log =
        [.clientSendInitMd, .clientWriterClose, .clientSendMsg [2]] :=
  ⟨⟨_, rfl, rfl, rfl⟩, _, rfl, rfl⟩

end GrpcCbCore.Client.SyncWriter
