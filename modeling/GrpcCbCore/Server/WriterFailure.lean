import GrpcCbCore.Server.WriterProtocol

/-! After grpc refuses a message the writer is meant to be closed with an empty
queue, for waiting threads to go on. `TryToWriteNext` misses this when the
refused message came out of the queue: it pops from the queue just emptied. -/
namespace GrpcCbCore.Server.WriterImpl
open GrpcCbCore.Library

variable {grpc : Nat → Bool}

/-- A clean closed writer: nothing queued, no `pop()` on an empty queue, and
every wait loop exits at its next test, that of a `SyncWrite` with false. -/
structure Clean (grpc : Nat → Bool) (w : World) : Prop where
  closed : w.impl.closed = true
  queue : w.impl.queue = []
  size : getQueueSize w.impl = 0
  noPop : .note (.fault .tryToWriteNextPop) ∉ w.impl.call.log
  syncWriteWait : ∀ thread response ticket,
    w.threads[thread]? = some (.syncWriteWait response ticket) →
    ∃ w', (machine grpc).run w [.run thread, .run thread] = some w' ∧
      w'.threads[thread]? = some .idle ∧
      w'.impl.call.log = w.impl.call.log ++
        [.note (.syncWriteReturns response (some ticket) false)]
  syncWriteResult : ∀ thread response ticket,
    w.threads[thread]? = some (.syncWriteResult response ticket) →
    ∃ w', (machine grpc).run w [.run thread] = some w' ∧ w'.threads[thread]? = some .idle ∧
      w'.impl.call.log = w.impl.call.log ++
        [.note (.syncWriteReturns response (some ticket) false)]
  syncCloseWait : ∀ thread, w.threads[thread]? = some .syncCloseWait →
    ∃ w', (machine grpc).run w [.run thread] = some w' ∧ w'.threads[thread]? = some .idle
  destroyWait : w.life = .destroying →
    ∃ w', (machine grpc).run w [.destroyWait] = some w' ∧ w'.life = .destroyed

def CleanAfterRefusal (grpc : Nat → Bool) (w : World) : Prop :=
  collect Event.refusedMessage w.impl.call.log ≠ [] → Clean grpc w

/-- A message completes, others are queued behind it, and grpc is going to
refuse the next start. -/
def RefusesQueued (grpc : Nat → Bool) (w : World) (label : Label) : Prop :=
  ∃ index success junk message md, label = .complete index success junk ∧
    w.impl.call.outstanding[index]? = some (.serverWriterWrite message md) ∧
    w.impl.queue ≠ [] ∧ grpc w.impl.call.starts = false

/-- What keeps a writer clean. -/
structure Sound (s : Impl) : Prop where
  emptied : s.closed = true → s.queue = []
  noPop : .note (.fault .tryToWriteNextPop) ∉ s.call.log

section sections

variable {s : Impl} {l : Lane StdString Status}

theorem Sound.note (h : Sound s) {n : Note} (hn : n ≠ .fault .tryToWriteNextPop) :
    Sound (s.note n) := by
  refine ⟨h.emptied, ?_⟩
  simp [h.noPop, hn.symm]

theorem Sound.send_status (h : Sound s) {status : Status} (hclosed : s.closed = false)
    (hstatus : s.closeStatus = some status) (hqueue : s.queue = []) :
    Sound (sendStatus grpc s) := by
  rw [sendStatus_eq hclosed hstatus hqueue]
  refine ⟨fun _ => hqueue, ?_⟩
  simp [h.noPop]

private theorem asyncWriteSection_sound (h : Refines s l) (hs : Sound s) (response : StdString) :
    Sound (asyncWriteSection grpc response s).2 := by
  unfold asyncWriteSection
  obtain heq | ⟨hclosed, -, -, heq⟩ | ⟨hclosed, -, -, -, -, heq⟩ | ⟨-, -, -, heq⟩ :=
    asyncWrite_cases grpc h response <;> rw [heq]
  · exact hs.note (by simp)
  · exact ⟨fun hc => by simp [hclosed] at hc, by simp [hs.noPop]⟩
  · exact ⟨fun hc => by simp [hclosed] at hc, by simp [hs.noPop]⟩
  · exact ⟨fun _ => rfl, by simp [hs.noPop]⟩

private theorem asyncClose_sound (h : Refines s l) (hs : Sound s) {n : Note} (status : Status)
    (hn : n ≠ .fault .tryToWriteNextPop) : Sound (asyncClose grpc status (s.note n)) := by
  have hnote := hs.note hn
  obtain ⟨-, heq⟩ | ⟨-, -, -, heq⟩ | ⟨hclosed, -, -, -, hqueue, heq⟩ :=
    asyncClose_cases grpc h n status <;> rw [heq]
  · exact hnote
  · exact ⟨hnote.emptied, hnote.noPop⟩
  · have hasked : Sound { s.note n with closeStatus := some status } :=
      ⟨hnote.emptied, hnote.noPop⟩
    exact hasked.send_status hclosed rfl hqueue

private theorem runSection_sound (h : Refines s l) (hs : Sound s) {pc pc' : Pc} {t : Impl}
    (hrun : runSection grpc pc s = some (pc', t)) : Sound t :=
  runSection_keeps hs (asyncWriteSection_sound h hs)
    (fun status => asyncClose_sound h hs status (by simp)) (fun _ _ _ _ hu => hu.note (by simp))
    hrun

private theorem doComplete_sound (h : Refines s l) (hs : Sound s) {call : Call Note} {index : Nat}
    {success : Bool} {received : Received} {tag : CqTag}
    (hcall : s.call.complete index success received = some (tag, call))
    (hgood : ∀ message md, tag = .serverWriterWrite message md → s.queue ≠ [] →
      grpc call.starts = true)
    (junk : List StdString) : Sound (doComplete grpc tag junk { s with call := call }) := by
  have hcalled : Sound { s with call := call } :=
    ⟨hs.emptied, by simp [Call.complete_log hcall, hs.noPop]⟩
  cases tag with
  | serverWriterWrite message md =>
    have hclosed := h.open_of_flying (h.completes_message hcall).1
    obtain ⟨front, rest, -, -, heq⟩ | ⟨front, hqueue, hok, -⟩ | ⟨status, hqueue, -, hasked, heq⟩ |
      ⟨-, -, heq⟩ := tryToWriteNext_cases grpc h.toTracks hclosed call junk
    · rw [doComplete, heq]
      exact ⟨fun hc => by simp [hclosed] at hc, by simpa using hcalled.noPop⟩
    · rw [hgood message md rfl hqueue] at hok
      contradiction
    · rw [doComplete, heq]
      have hidle : Sound { s with call := call, isSending := false } :=
        ⟨hcalled.emptied, hcalled.noPop⟩
      exact hidle.send_status hclosed (h.closing.trans hasked) hqueue
    · rw [doComplete, heq]
      exact ⟨hcalled.emptied, hcalled.noPop⟩
  | _ => exact hcalled

private theorem destroy_sound (h : Refines s l) (hs : Sound s)
    (hnone : (s.call.outstanding.filterMap CqTag.message?).isEmpty = true) :
    Sound (asyncClose grpc .OK
      ((s.note .destroy).check .destructorQueue (s.note .destroy).queue.isEmpty)) := by
  have hqueue : s.queue = [] := by
    cases hlive : l.broken with
    | false => exact h.queue_empty hnone hlive
    | true => exact hs.emptied (by simp [h.closed, hlive])
  rw [Impl.note_queue, hqueue]
  exact asyncClose_sound h hs .OK (by simp)

end sections

section runs

variable {w w' : World} {l : Lane StdString Status} {label : Label}

/-- The calling operation pops from the queue that the refusal has emptied. -/
theorem refusesQueued_faults (h : Refines w.impl l) (hbad : RefusesQueued grpc w label)
    (hstep : step grpc w label = some w') : ¬ CleanAfterRefusal grpc w' := by
  obtain ⟨index, success, junk, message, md, rfl, htag, hqueue, hok⟩ := hbad
  obtain ⟨hclosed, call, hcall, rfl⟩ := step_completes_message h htag hstep
  obtain ⟨front, rest, hwaiting⟩ := List.exists_cons_of_ne_nil hqueue
  have hrefuses : grpc call.starts = false := by rw [(Call.complete_found hcall).2, hok]
  have heq := tryToWriteNext_refused (s := { w.impl with call := call }) junk hclosed hwaiting
    hrefuses
  intro hclean
  refine (hclean ?_).noPop ?_
  · simp [heq, hrefuses]
  · simp [heq]

private theorem step_sound (h : Refines w.impl l) (hs : Sound w.impl)
    (hgood : ¬ RefusesQueued grpc w label) (hstep : step grpc w label = some w') :
    Sound w'.impl := by
  cases step_steps hstep with
  | calls => exact hs
  | runs thread pc pc' impl halive hpc hrun => exact runSection_sound h hs hrun
  | sets => exact ⟨hs.emptied, hs.noPop⟩
  | completes index success junk tag call hcall =>
    obtain ⟨hfound, hstarts⟩ := Call.complete_found hcall
    refine doComplete_sound h hs hcall ?_ junk
    rintro message md rfl hqueue
    rw [hstarts]
    by_contra hok
    exact hgood ⟨index, success, junk, message, md, rfl, hfound, hqueue, by simpa using hok⟩
  | destroys halive hidle hnone => exact destroy_sound h hs hnone
  | waits => exact hs

section exits

variable {thread ticket : Nat} {response : StdString}

private theorem exits_syncWriteResult (halive : w.life = .alive)
    (hpc : w.threads[thread]? = some (.syncWriteResult response ticket))
    (hclosed : w.impl.closed = true) :
    ∃ w', (machine grpc).run w [.run thread] = some w' ∧ w'.threads[thread]? = some .idle ∧
      w'.impl.call.log = w.impl.call.log ++
        [.note (.syncWriteReturns response (some ticket) false)] := by
  have hlt := (List.getElem?_eq_some_iff.mp hpc).1
  have hstep := @step_run_eq grpc w thread _ _ _ halive hpc rfl
  exact ⟨_, (Machine.run_cons _).mpr ⟨_, hstep, rfl⟩, by simp [hlt], by simp [hclosed]⟩

private theorem exits_syncWriteWait (halive : w.life = .alive)
    (hpc : w.threads[thread]? = some (.syncWriteWait response ticket))
    (hsize : getQueueSize w.impl = 0) (hclosed : w.impl.closed = true) :
    ∃ w', (machine grpc).run w [.run thread, .run thread] = some w' ∧
      w'.threads[thread]? = some .idle ∧
      w'.impl.call.log = w.impl.call.log ++
        [.note (.syncWriteReturns response (some ticket) false)] := by
  have hlt := (List.getElem?_eq_some_iff.mp hpc).1
  have hstep : step grpc w (.run thread) = some { w with
      threads := w.threads.set thread (.syncWriteResult response ticket) } :=
    step_run_eq halive hpc (by simp [runSection, hsize])
  have hpast : (w.threads.set thread (.syncWriteResult response ticket))[thread]? =
      some (.syncWriteResult response ticket) := by simp [hlt]
  obtain ⟨w', hrun, hidle, hlog⟩ := exits_syncWriteResult
    (w := { w with threads := w.threads.set thread (.syncWriteResult response ticket) })
    halive hpast hclosed
  exact ⟨w', (Machine.run_cons _).mpr ⟨_, hstep, hrun⟩, hidle, hlog⟩

private theorem exits_syncCloseWait (halive : w.life = .alive)
    (hpc : w.threads[thread]? = some .syncCloseWait) (hsize : getQueueSize w.impl = 0) :
    ∃ w', (machine grpc).run w [.run thread] = some w' ∧ w'.threads[thread]? = some .idle := by
  have hlt := (List.getElem?_eq_some_iff.mp hpc).1
  have hstep : step grpc w (.run thread) = some { w with
      threads := w.threads.set thread .idle } :=
    step_run_eq halive hpc (by simp [runSection, hsize])
  exact ⟨_, (Machine.run_cons _).mpr ⟨_, hstep, rfl⟩, by simp [hlt]⟩

end exits

theorem Ages.alive_of_busy (ha : Ages w) {thread : Nat} {pc : Pc}
    (hpc : w.threads[thread]? = some pc) (hbusy : pc ≠ .idle) : w.life = .alive := by
  by_contra hdying
  exact hbusy ((ha.dying hdying).2.1 pc (List.mem_of_getElem? hpc))

private theorem clean_of_sound (h : Refines w.impl l) (ha : Ages w) (hs : Sound w.impl) :
    CleanAfterRefusal grpc w := by
  intro hrefused
  have hbroken : l.broken = true := by
    by_contra hlive
    exact hrefused (h.refused.mp (by simpa using hlive))
  have hclosed : w.impl.closed = true := by simp [h.closed, hbroken]
  have hqueue := hs.emptied hclosed
  have hsize : getQueueSize w.impl = 0 := by simp [getQueueSize, hqueue]
  refine ⟨hclosed, hqueue, hsize, hs.noPop, ?_, ?_, ?_, ?_⟩
  · intro thread response ticket hpc
    exact exits_syncWriteWait (ha.alive_of_busy hpc (by simp)) hpc hsize hclosed
  · intro thread response ticket hpc
    exact exits_syncWriteResult (ha.alive_of_busy hpc (by simp)) hpc hclosed
  · intro thread hpc
    exact exits_syncCloseWait (ha.alive_of_busy hpc (by simp)) hpc hsize
  · intro hdestroying
    refine ⟨_, (Machine.run_cons _).mpr ⟨_, if_pos hdestroying, rfl⟩, ?_⟩
    simp [hsize]

end runs

/-- A refusal leaves a clean closed writer in every state from then on, just
when it is never that of a queued message. -/
theorem clean_after_refusal_iff {n : Nat} {ls : List Label} {w : World}
    (hrun : (machine grpc).run (initial n) ls = some w) :
    (machine grpc).Throughout (CleanAfterRefusal grpc) (initial n) ls ↔
      (machine grpc).Along (fun w label => ¬ RefusesQueued grpc w label) (initial n) ls := by
  refine Machine.throughout_iff_along
    (I := fun w => (∃ l, Refines w.impl l) ∧ Ages w ∧ Sound w.impl) ?_ ?_ ?_ ?_ hrun
  · rintro w ⟨⟨l, h⟩, ha, hs⟩
    exact clean_of_sound h ha hs
  · rintro w label w' ⟨⟨l, h⟩, ha, hs⟩ hgood hstep
    obtain ⟨l', -, h'⟩ := step_refines h hstep
    exact ⟨⟨l', h'⟩, step_ages h ha hstep, step_sound h hs hgood hstep⟩
  · rintro w label w' ⟨⟨l, h⟩, -, -⟩ hbad hstep
    exact refusesQueued_faults h (not_not.mp hbad) hstep
  · have hnil : (machine grpc).run (initial n) [] = some (initial n) := rfl
    exact ⟨⟨_, refines_fresh⟩, run_ages hnil, fun _ => rfl, by simp [initial]⟩

/-- A `SyncWrite` on an idle writer, refused. -/
def idleRefusalLabels : List Label := [.call 0 (.syncWrite [1]), .run 0]

theorem clean_after_refusal_idle :
    (machine fun _ => false).Throughout (CleanAfterRefusal fun _ => false) (initial 1)
      idleRefusalLabels := by
  have hrun : (machine fun _ => false).run (initial 1) idleRefusalLabels = some _ := rfl
  refine (clean_after_refusal_iff hrun).mpr ?_
  rintro before label after w hls - ⟨index, success, junk, _, _, rfl, -⟩
  have hmem : Label.complete index success junk ∈ idleRefusalLabels := by simp [hls]
  simp [idleRefusalLabels] at hmem

/-- The second of two messages is queued, and refused when the first completes. -/
def queuedRefusalLabels : List Label :=
  [.call 0 (.asyncWrite [1]), .run 0, .call 0 (.asyncWrite [2]), .run 0, .complete 0 true []]

theorem queued_refusal_pops_empty_queue :
    ∃ w, (machine fun k => k = 0).run (initial 1) queuedRefusalLabels = some w ∧
      collect Event.refusedMessage w.impl.call.log = [[2]] ∧
      .note (.fault .tryToWriteNextPop) ∈ w.impl.call.log ∧
      ¬ CleanAfterRefusal (fun k => k = 0) w := by
  have hrun : (machine fun k => k = 0).run (initial 1) queuedRefusalLabels = some _ := rfl
  refine ⟨_, hrun, by decide, by decide, fun hclean => ?_⟩
  exact (hclean (by decide)).noPop (by decide)

end GrpcCbCore.Server.WriterImpl
