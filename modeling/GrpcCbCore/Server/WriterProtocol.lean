import GrpcCbCore.Server.WriterLane

/-! The batches of a `ServerWriterImpl` form a legal conversation with grpc,
whatever is accepted, refused or fails, up to the end of the destructor. -/
namespace GrpcCbCore.Server.WriterImpl
open GrpcCbCore.Library

variable {grpc : Nat → Bool}

section closes

variable {s : Impl} {l : Lane StdString Status}

/-- Every Close so far is a user's: the destructor has not run. -/
def UserCloses (s : Impl) : Prop :=
  collect closeCall s.call.log = collect userClose s.call.log

private theorem asyncWriteSection_userCloses (h : Refines s l) (hu : UserCloses s)
    (response : StdString) : UserCloses (asyncWriteSection grpc response s).2 := by
  unfold UserCloses at hu ⊢
  unfold asyncWriteSection
  obtain heq | ⟨-, -, -, heq⟩ | ⟨-, -, -, -, -, heq⟩ | ⟨-, -, -, heq⟩ :=
    asyncWrite_cases grpc h response <;> rw [heq] <;> simp [hu]

private theorem asyncCloseSection_userCloses (h : Refines s l) (hu : UserCloses s)
    (status : Status) : UserCloses (asyncCloseSection grpc status s) := by
  unfold UserCloses at hu ⊢
  unfold asyncCloseSection
  obtain ⟨-, heq⟩ | ⟨-, -, -, heq⟩ | ⟨hclosed, -, -, -, hqueue, heq⟩ :=
    asyncClose_cases grpc h (.asyncClose status) status <;> rw [heq]
  · simp [hu]
  · simp [hu]
  · rw [sendStatus_eq (s := { s.note (.asyncClose status) with closeStatus := some status })
      hclosed rfl hqueue]
    simp [hu]

private theorem runSection_userCloses (h : Refines s l) (hu : UserCloses s) {pc pc' : Pc} {t : Impl}
    (hrun : runSection grpc pc s = some (pc', t)) : UserCloses t := by
  refine runSection_keeps hu (asyncWriteSection_userCloses h hu)
    (asyncCloseSection_userCloses h hu) ?_ hrun
  intro u response ticket result hu
  simpa [UserCloses] using hu

private theorem doComplete_userCloses (h : Refines s l) (hu : UserCloses s) {call : Call Note}
    {index : Nat} {success : Bool} {received : Received} {tag : CqTag}
    (hcall : s.call.complete index success received = some (tag, call))
    (junk : List StdString) : UserCloses (doComplete grpc tag junk { s with call := call }) := by
  have hlog : UserCloses { s with call := call } := by
    simpa [UserCloses, Call.complete_log hcall] using hu
  unfold UserCloses at hlog ⊢
  cases tag with
  | serverWriterWrite m md =>
    have hclosed := h.open_of_flying (h.completes_message hcall).1
    obtain ⟨front, rest, -, -, heq⟩ | ⟨front, -, -, heq⟩ | ⟨status, hqueue, -, hasked, heq⟩ |
      ⟨-, -, heq⟩ := tryToWriteNext_cases grpc h.toTracks hclosed call junk <;>
      rw [doComplete, heq]
    · simpa using hlog
    · simpa using hlog
    · rw [sendStatus_eq (s := { s with call := call, isSending := false }) hclosed
        (h.closing.trans hasked) hqueue]
      simpa using hlog
    · exact hlog
  | _ => exact hlog

private theorem doComplete_closed {tag : CqTag} {junk : List StdString}
    (hclosed : s.closed = true) : doComplete grpc tag junk s = s := by
  cases tag <;> simp [doComplete, tryToWriteNext, hclosed]

private theorem destroy_closes (h : Refines s l) (hu : UserCloses s)
    (hnone : (s.call.outstanding.filterMap CqTag.message?).isEmpty = true) {t : Impl}
    (ht : t = asyncClose grpc .OK
      ((s.note .destroy).check .destructorQueue (s.note .destroy).queue.isEmpty)) :
    t.closed = true ∧
      collect closeCall t.call.log = collect userClose t.call.log ++ [.OK] := by
  unfold UserCloses at hu
  cases hlive : l.broken with
  | true =>
    have hclosed : s.closed = true := by simp [h.closed, hlive]
    have hcheck : ((s.note .destroy).check .destructorQueue
        (s.note .destroy).queue.isEmpty).closed = true := by
      unfold Impl.check
      split <;> exact hclosed
    rw [asyncClose_shut (by rw [hcheck, Bool.true_or])] at ht
    refine ⟨by rw [ht, hcheck], ?_⟩
    rw [ht]
    unfold Impl.check
    split <;> simp [hu]
  | false =>
    have hidle : l.flying = none := by
      rw [h.outstanding] at hnone
      cases hflying : l.flying <;> simp_all
    rw [Impl.note_queue, h.queue_empty hnone hlive] at ht
    change t = asyncClose grpc .OK (s.note .destroy) at ht
    obtain ⟨hshut, heq⟩ | ⟨-, -, hbusy, -⟩ | ⟨hclosed, -, -, -, hqueue, heq⟩ :=
      asyncClose_cases grpc h .destroy .OK
    · have hsent := (h.settled hlive hidle).2 (by simpa [hlive] using hshut)
      rw [ht, heq]
      simp [h.closed, hsent, hu]
    · simp [hidle] at hbusy
    · rw [ht, heq, sendStatus_eq (s := { s.note .destroy with closeStatus := some .OK })
        hclosed rfl hqueue]
      simp [hu]

end closes

/-- The two ages of a writer. Once the destructor runs, the writer is closed
and no thread is inside a call. -/
structure Ages (w : World) : Prop where
  alive : w.life = .alive → UserCloses w.impl
  dying : w.life ≠ .alive → w.impl.closed = true ∧ (∀ pc ∈ w.threads, pc = .idle) ∧
    collect closeCall w.impl.call.log = collect userClose w.impl.call.log ++ [.OK]

theorem step_ages {w w' : World} {l : Lane StdString Status} (h : Refines w.impl l)
    (ha : Ages w) {label : Label} (hstep : step grpc w label = some w') : Ages w' := by
  cases step_steps hstep with
  | calls thread request halive => exact ⟨ha.alive, fun hdying => absurd halive hdying⟩
  | runs thread pc pc' impl halive hpc hrun =>
    exact ⟨fun _ => runSection_userCloses h (ha.alive halive) hrun,
      fun hdying => absurd halive hdying⟩
  | sets size halive => exact ⟨ha.alive, fun hdying => absurd halive hdying⟩
  | completes index success junk tag call hcall =>
    refine ⟨fun halive => doComplete_userCloses h (ha.alive halive) hcall junk, fun hdying => ?_⟩
    obtain ⟨hclosed, hidle, hcloses⟩ := ha.dying hdying
    rw [doComplete_closed (s := { w.impl with call := call }) hclosed]
    exact ⟨hclosed, hidle, by simpa [Call.complete_log hcall] using hcloses⟩
  | destroys halive hidle hnone =>
    obtain ⟨hclosed, hcloses⟩ := destroy_closes h (ha.alive halive) hnone rfl
    exact ⟨fun hlife => by simp at hlife,
      fun _ => ⟨hclosed, by simpa using hidle, hcloses⟩⟩
  | waits hdestroying =>
    have hdying := ha.dying (by simp [hdestroying])
    refine ⟨fun hlife => ?_, fun _ => hdying⟩
    split at hlife <;> simp at hlife

theorem run_ages {n : Nat} {ls : List Label} {w : World}
    (hrun : (machine grpc).run (initial n) ls = some w) : Ages w := by
  refine (Machine.invariant (M := machine grpc)
    (I := fun w => (∃ l, Refines w.impl l) ∧ Ages w) ?_ ⟨⟨_, refines_fresh⟩, ?_⟩ hrun).2
  · rintro w label w' ⟨⟨l, h⟩, ha⟩ hstep
    obtain ⟨l', -, h'⟩ := step_refines h hstep
    exact ⟨⟨l', h'⟩, step_ages h ha hstep⟩
  · exact ⟨fun _ => rfl, by simp [initial]⟩

private theorem refused_eq_nil {history : List (Event Note)} (hlaw : AtEach Lawful history)
    (hstatus : collect Event.statusAttempt history = [])
    (hmessage : collect Event.refusedMessage history = []) :
    collect Event.refused history = [] := by
  apply collect_eq_nil
  intro e he
  have hnoStatus := List.filterMap_eq_nil_iff.mp hstatus e he
  have hnoMessage := List.filterMap_eq_nil_iff.mp hmessage e he
  obtain ⟨before, after, hsplit⟩ := List.append_of_mem he
  have hown := hlaw before e after hsplit
  rcases e with ⟨tag, _ | _⟩ | _ | _
  case start.false =>
    cases tag <;> simp [Lawful, ownTag] at hown hnoStatus hnoMessage
  all_goals rfl

section laws

variable {s : Impl} {l : Lane StdString Status} {history : List (Event Note)}

theorem Tracks.one_outstanding (h : Tracks s l) :
    (s.call.outstanding.filterMap CqTag.message?).length ≤ 1 := by
  rw [h.outstanding]
  cases l.flying <;> simp

theorem Tracks.one_status (h : Tracks s l) :
    (collect Event.statusAttempt s.call.log).length ≤ 1 := by
  rw [h.statusAttempt]
  exact l.closed_length_le

private theorem initMd_goes_first (hlaw : AtEach Lawful history) :
    AtEach (fun before e => ∀ tag, Event.started e = some tag →
      tag.hasInitMd = (collect Event.started before).isEmpty) history := by
  intro before e after hlog tag htag
  have hown := hlaw before e after hlog
  rcases e with ⟨started, _ | _⟩ | _ | _ <;> simp at htag
  rw [← htag]
  exact hown.2.2.2.2.1

private theorem status_goes_alone (hlaw : AtEach Lawful history) :
    AtEach (fun before e => Event.statusAttempt e ≠ none →
      collect Event.sent before = collect Event.finished before) history := by
  intro before e after hlog hstatus
  have hown := hlaw before e after hlog
  cases e with
  | start tag ok => exact hown.2.1
  | complete tag success received => simp at hstatus
  | note n => simp at hstatus

private theorem stops_for_good (hlaw : AtEach Lawful history) :
    AtEach (fun before e => collect Event.statusAttempt before ≠ [] ∨
      collect Event.refused before ≠ [] → Event.attempt e = none) history := by
  intro before e after hlog hstopped
  have hown := hlaw before e after hlog
  cases e with
  | start tag ok =>
    exfalso
    rcases hstopped with hsent | hrefused
    · exact hsent hown.2.2.1
    · rw [hlog] at hlaw
      have hbefore : AtEach Lawful before := hlaw.of_append
      exact hrefused (refused_eq_nil hbefore hown.2.2.1 hown.2.2.2.1)
  | complete tag success received => rfl
  | note n => rfl

/-- A writer that its user has let go of has sent the status, if no message was refused. -/
theorem Ages.told_status {w : World} (ha : Ages w) (h : Refines w.impl l)
    (hdying : w.life ≠ .alive) (hok : collect Event.refusedMessage w.impl.call.log = []) :
    collect Event.statusAttempt w.impl.call.log =
      [(collect userClose w.impl.call.log).head?.getD .OK] := by
  obtain ⟨hclosed, -, hcloses⟩ := ha.dying hdying
  have hlive := h.refused.mpr hok
  have hsent : l.closeSent = true := by
    simpa [hlive] using h.closed.symm.trans hclosed
  have hfirst := h.firstClose hlive
  rw [hcloses, List.head?_append] at hfirst
  rw [h.statusAttempt, if_pos hsent, ← hfirst]
  cases (collect userClose w.impl.call.log).head? <;> rfl

end laws

/-- At most one message at a time; initial metadata with the first accepted
batch and no other; one status at most, with nothing outstanding; nothing after
it or after a refusal. The destructor makes sure of the status, that of the
first Close, unless a message was refused. -/
theorem speaks_legal_batches {n : Nat} {ls : List Label} {w : World}
    (hrun : (machine grpc).run (initial n) ls = some w) :
    (w.impl.call.outstanding.filterMap CqTag.message?).length ≤ 1 ∧
    AtEach (fun before e => ∀ tag, Event.started e = some tag →
      tag.hasInitMd = (collect Event.started before).isEmpty) w.impl.call.log ∧
    (collect Event.statusAttempt w.impl.call.log).length ≤ 1 ∧
    AtEach (fun before e => Event.statusAttempt e ≠ none →
      collect Event.sent before = collect Event.finished before) w.impl.call.log ∧
    AtEach (fun before e => collect Event.statusAttempt before ≠ [] ∨
      collect Event.refused before ≠ [] → Event.attempt e = none) w.impl.call.log ∧
    (w.life = .destroyed → collect Event.refusedMessage w.impl.call.log = [] →
      collect Event.statusAttempt w.impl.call.log =
        [(collect userClose w.impl.call.log).head?.getD .OK]) := by
  obtain ⟨l, -, h⟩ := run_refines hrun
  refine ⟨h.one_outstanding, initMd_goes_first h.lawful, h.one_status,
    status_goes_alone h.lawful, stops_for_good h.lawful, fun hdestroyed hok => ?_⟩
  exact (run_ages hrun).told_status h (by simp [hdestroyed]) hok

/-- A writer destroyed without a Close, its only message failed. -/
def unclosedLabels : List Label :=
  [.call 0 (.write [1]), .run 0, .run 0, .complete 0 false [], .destroy, .destroyWait]

theorem speaks_legal_batches_unclosed :
    ∃ w, (machine fun _ => true).run (initial 1) unclosedLabels = some w ∧
      collect Event.statusAttempt w.impl.call.log = [.OK] := by
  have hrun : (machine fun _ => true).run (initial 1) unclosedLabels = some _ := rfl
  exact ⟨_, hrun, (speaks_legal_batches hrun).2.2.2.2.2 (by decide) (by decide)⟩

end GrpcCbCore.Server.WriterImpl
