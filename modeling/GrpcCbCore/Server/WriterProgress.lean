import GrpcCbCore.Server.WriterDelivery
import GrpcCbCore.Server.WriterFailure
import GrpcCbCore.Library.Progress

/-! The calls of a `ServerWriterImpl` return. With nothing refused, the threads that are in
a call and the batches that are outstanding keep each other going, until all is sent. -/
namespace GrpcCbCore.Server.WriterImpl
open GrpcCbCore.Library

/-- A wait loop that finds the queue not empty, and would only go round. -/
def Spins (s : Impl) : Pc → Prop
  | .syncWriteWait _ _ | .syncCloseWait => getQueueSize s ≠ 0
  | _ => False

/-- What has begun goes on: batches complete, and threads go on that do not spin. Nobody
begins a call. -/
def Completes (w : World) : Label → Prop
  | .complete _ _ _ => True
  | .run thread => ∀ pc, w.threads[thread]? = some pc → ¬ Spins w.impl pc
  | .destroyWait => getQueueSize w.impl = 0
  | _ => False

/-- What a thread has still to do until its call returns, its message counted in. -/
def Pc.left : Pc → Nat
  | .idle => 0
  | .syncWriteResult _ _ | .asyncClose _ | .syncCloseWait => 1
  | .asyncWrite _ | .syncWriteWait _ _ | .syncClose _ => 2
  | .syncWrite _ => 4
  | .write _ => 5

/-- The batches that are outstanding, the messages that wait, and the status. -/
def Impl.left (s : Impl) : Nat :=
  s.call.outstanding.length + s.queue.length + if s.closed then 0 else 1

def left (w : World) : Nat :=
  w.impl.left + (w.threads.map Pc.left).sum + if w.life = .destroying then 1 else 0

/-- grpc refuses nothing from here on. -/
def Grants (grpc : Nat → Bool) (s : Impl) : Prop := ∀ k, s.call.starts ≤ k → grpc k = true

structure Smooth (s t : Impl) : Prop where
  refused : collect Event.refused t.call.log = collect Event.refused s.call.log
  starts : s.call.starts ≤ t.call.starts

section sections

variable {grpc : Nat → Bool} {s t u : Impl} {l : Lane StdString Status}

theorem Grants.now (h : Grants grpc s) : grpc s.call.starts = true := h _ (Nat.le_refl _)

theorem Grants.later (h : Grants grpc s) (hsmooth : Smooth s t) : Grants grpc t :=
  fun k hk => h k (Nat.le_trans hsmooth.starts hk)

theorem Smooth.trans (h : Smooth s t) (h' : Smooth t u) : Smooth s u where
  refused := h'.refused.trans h.refused
  starts := Nat.le_trans h.starts h'.starts

theorem Smooth.same (h : t.call = s.call) : Smooth s t := by
  constructor <;> simp [h]

private theorem note_smooth (n : Note) (s : Impl) : Smooth s (s.note n) := by
  constructor <;> simp

private theorem startBatch_smooth {tag : CqTag} (hgrpc : grpc s.call.starts = true)
    (ht : t.call = (s.call.startBatch grpc tag).2) : Smooth s t := by
  constructor <;> simp [ht, hgrpc]

@[simp] theorem note_left (n : Note) (s : Impl) : (s.note n).left = s.left := rfl

private theorem asyncWriteSection_left (hgrpc : Grants grpc s) (h : Refines s l) (m : StdString) :
    (asyncWriteSection grpc m s).2.left ≤ s.left + 1 ∧
      Smooth s (asyncWriteSection grpc m s).2 := by
  unfold asyncWriteSection
  obtain heq | ⟨-, -, -, heq⟩ | ⟨-, -, -, -, -, heq⟩ | ⟨-, -, hno, -⟩ :=
    asyncWrite_cases grpc h m
  · simp [heq, note_smooth]
  · rw [heq]
    constructor
    · rw [note_left]
      simp only [Impl.left, List.length_append, List.length_singleton]
      omega
    · constructor <;> simp
  · rw [heq]
    constructor
    · rw [note_left]
      simp only [Impl.left, Call.startBatch_outstanding, hgrpc.now, if_true, List.length_append,
        List.length_singleton]
      omega
    · exact (startBatch_smooth hgrpc.now rfl).trans (note_smooth _ _)
  · simp [hgrpc.now] at hno

private theorem sendStatus_left (hgrpc : Grants grpc s) {status : Status}
    (hclosed : s.closed = false) (hstatus : s.closeStatus = some status) (hqueue : s.queue = []) :
    (sendStatus grpc s).left = s.left ∧ Smooth s (sendStatus grpc s) := by
  rw [sendStatus_eq hclosed hstatus hqueue]
  constructor
  · simp only [Impl.left, Call.startBatch_outstanding, hgrpc.now, hclosed, if_true,
      List.length_append, List.length_singleton, Bool.false_eq_true, if_false]
    omega
  · exact startBatch_smooth hgrpc.now rfl

private theorem asyncCloseSection_left (hgrpc : Grants grpc s) (h : Refines s l) (status : Status) :
    (asyncCloseSection grpc status s).left = s.left ∧
      Smooth s (asyncCloseSection grpc status s) := by
  unfold asyncCloseSection
  obtain ⟨-, heq⟩ | ⟨-, -, -, heq⟩ | ⟨hclosed, -, -, -, hqueue, heq⟩ :=
    asyncClose_cases grpc h (.asyncClose status) status
  · simp [heq, note_smooth]
  · rw [heq]
    exact ⟨rfl, (note_smooth (.asyncClose status) s).trans (Smooth.same rfl)⟩
  · have hasked : Smooth s { s.note (.asyncClose status) with closeStatus := some status } :=
      (note_smooth (.asyncClose status) s).trans (Smooth.same rfl)
    obtain ⟨hleft, hsmooth⟩ := sendStatus_left (hgrpc.later hasked) hclosed rfl hqueue
    rw [heq, hleft]
    exact ⟨rfl, hasked.trans hsmooth⟩

/-- A section that does not spin brings its thread nearer to its return. -/
theorem runSection_left (hgrpc : Grants grpc s) (h : Refines s l) {pc pc' : Pc}
    (hspins : ¬ Spins s pc) (hrun : runSection grpc pc s = some (pc', t)) :
    t.left + pc'.left < s.left + pc.left ∧ Smooth s t := by
  cases pc with
  | idle => simp [runSection] at hrun
  | write response =>
    cases hrun
    refine ⟨?_, Smooth.same rfl⟩
    split <;> simp [Pc.left]
  | asyncWrite response =>
    cases hrun
    obtain ⟨hleft, hsmooth⟩ := asyncWriteSection_left hgrpc h response
    refine ⟨?_, hsmooth⟩
    simp only [Pc.left]
    omega
  | syncWrite response =>
    obtain ⟨hleft, hsmooth⟩ := asyncWriteSection_left hgrpc h response
    simp only [runSection] at hrun
    rcases hr : asyncWriteSection grpc response s with ⟨_ | _, u⟩ <;>
      rw [hr] at hrun hleft hsmooth <;> cases hrun <;> dsimp only at hleft hsmooth
    · refine ⟨?_, hsmooth.trans (note_smooth _ u)⟩
      simp only [Pc.left, note_left]
      omega
    · refine ⟨?_, hsmooth⟩
      simp only [Pc.left]
      omega
  | syncWriteWait response ticket =>
    cases hrun
    refine ⟨?_, Smooth.same rfl⟩
    rw [if_neg (by simpa [Spins] using hspins)]
    simp [Pc.left]
  | syncWriteResult response ticket =>
    cases hrun
    exact ⟨by simp [Pc.left], note_smooth _ s⟩
  | asyncClose status =>
    cases hrun
    obtain ⟨hleft, hsmooth⟩ := asyncCloseSection_left hgrpc h status
    exact ⟨by simp [Pc.left, hleft], hsmooth⟩
  | syncClose status =>
    cases hrun
    obtain ⟨hleft, hsmooth⟩ := asyncCloseSection_left hgrpc h status
    exact ⟨by simp [Pc.left, hleft], hsmooth⟩
  | syncCloseWait =>
    cases hrun
    refine ⟨?_, Smooth.same rfl⟩
    rw [if_neg (by simpa [Spins] using hspins)]
    simp [Pc.left]

/-- A batch completes: one thing less to do, also where it starts the next one. -/
theorem doComplete_left (hgrpc : Grants grpc s) (h : Refines s l) {index : Nat}
    {success : Bool} {received : Received} {tag : CqTag} {call : Call Note}
    (hcall : s.call.complete index success received = some (tag, call)) (junk : List StdString) :
    (doComplete grpc tag junk { s with call := call }).left < s.left ∧
      Smooth s (doComplete grpc tag junk { s with call := call }) := by
  have hown : ownTag tag = true := h.own tag (Call.complete_subset hcall).1
  have hdone : Smooth s { s with call := call } :=
    ⟨by simp [Call.complete_log hcall], Nat.le_of_eq (Call.complete_found hcall).2.symm⟩
  have hlength := Call.complete_length hcall
  cases tag with
  | serverWriterSendStatus status md =>
    constructor
    · dsimp only [doComplete, Impl.left]
      omega
    · exact hdone
  | serverWriterWrite m md =>
    have hflying := (h.completes_message hcall).1
    have hclosed := h.open_of_flying hflying
    have hnow : grpc call.starts = true := (hgrpc.later hdone).now
    obtain ⟨front, rest, hwaiting, -, heq⟩ | ⟨front, -, hno, -⟩ |
      ⟨status, hqueue, -, hasked, heq⟩ | ⟨-, -, heq⟩ :=
      tryToWriteNext_cases grpc h.toTracks hclosed call junk
    · have hqueue : s.queue = front :: rest := (h.queue (h.live hclosed).1).trans hwaiting
      rw [doComplete, heq]
      constructor
      · simp only [Impl.left, Call.startBatch_outstanding, hnow, if_true, hqueue,
          List.length_append, List.length_cons, List.length_nil]
        omega
      · exact hdone.trans (startBatch_smooth hnow rfl)
    · exact absurd hnow (by simp [hno])
    · have hidle : Smooth s { s with call := call, isSending := false } :=
        hdone.trans (Smooth.same rfl)
      obtain ⟨hleft, hsmooth⟩ :=
        sendStatus_left (hgrpc.later hidle) hclosed (h.closing.trans hasked) hqueue
      rw [doComplete, heq, hleft]
      constructor
      · dsimp only [Impl.left]
        omega
      · exact hidle.trans hsmooth
    · rw [doComplete, heq]
      constructor
      · dsimp only [Impl.left]
        omega
      · exact hdone.trans (Smooth.same rfl)
  | _ => simp [ownTag] at hown

end sections

section worlds

variable {grpc : Nat → Bool} {w w' : World} {l : Lane StdString Status}

private theorem step_left (hgrpc : Grants grpc w.impl) (h : Refines w.impl l) {label : Label}
    (hlabel : Completes w label) (hstep : step grpc w label = some w') :
    left w' < left w ∧ Smooth w.impl w'.impl := by
  cases step_steps hstep with
  | calls thread request halive hpc => exact hlabel.elim
  | runs thread pc pc' impl halive hpc hrun =>
    obtain ⟨hleft, hsmooth⟩ := runSection_left hgrpc h (hlabel pc hpc) hrun
    have hsum := sum_map_set Pc.left hpc pc'
    refine ⟨?_, hsmooth⟩
    simp only [left]
    omega
  | sets size halive => exact hlabel.elim
  | completes index success junk tag call hcall =>
    obtain ⟨hleft, hsmooth⟩ := doComplete_left hgrpc h hcall junk
    refine ⟨?_, hsmooth⟩
    simp only [left]
    omega
  | destroys halive hidle hnone => exact hlabel.elim
  | waits hlife =>
    have hempty : getQueueSize w.impl = 0 := hlabel
    refine ⟨?_, Smooth.same rfl⟩
    simp [left, hlife, hempty]

private theorem queue_of_rest (h : Refines w.impl l) (hlive : l.broken = false)
    (hnone : w.impl.call.outstanding = []) : w.impl.queue = [] :=
  h.queue_empty (by simp [hnone]) hlive

private theorem exists_run (grpc : Nat → Bool) {pc : Pc} (hbusy : pc ≠ .idle) (s : Impl) :
    ∃ pc' t, runSection grpc pc s = some (pc', t) := by
  cases pc with
  | idle => exact absurd rfl hbusy
  | syncWrite response =>
    simp only [runSection]
    split
    · exact ⟨_, _, rfl⟩
    · exact ⟨_, _, rfl⟩
  | _ => exact ⟨_, _, rfl⟩

/-- What all has come to: nothing is outstanding, every call has returned, all that was
accepted has been sent and completed, and so has the status of the first Close. -/
structure Rested (w : World) : Prop where
  outstanding : w.impl.call.outstanding = []
  returned : ∀ pc ∈ w.threads, pc = .idle
  destroyed : w.life ≠ .destroying
  finished : collect Event.finished w.impl.call.log = collect accepted w.impl.call.log
  closed : collect Event.statusAttempt w.impl.call.log =
    (collect closeCall w.impl.call.log).head?.toList

structure Underway (grpc : Nat → Bool) (w : World) (l : Lane StdString Status) : Prop where
  refines : Refines w.impl l
  ages : Ages w
  clean : collect Event.refused w.impl.call.log = []
  grants : Grants grpc w.impl

theorem Underway.live (h : Underway grpc w l) : l.broken = false := by
  rw [h.refines.refused]
  apply collect_eq_nil
  intro e he
  have hclean := List.filterMap_eq_nil_iff.mp h.clean e he
  rcases e with ⟨tag, _ | _⟩ | _ | _ <;> simp_all

theorem Underway.goes_on (h : Underway grpc w l) {label : Label} (hlabel : Completes w label)
    (hstep : step grpc w label = some w') :
    ∃ l', Lane.Steps l l' ∧ Underway grpc w' l' ∧ left w' < left w := by
  obtain ⟨l', hsteps, hrefines⟩ := step_refines h.refines hstep
  obtain ⟨hleft, hsmooth⟩ := step_left h.grants h.refines hlabel hstep
  exact ⟨l', hsteps, ⟨hrefines, step_ages h.refines h.ages hstep, hsmooth.refused.trans h.clean,
    h.grants.later hsmooth⟩, hleft⟩

theorem Underway.rested (hw : Underway grpc w l) (hstuck : (machine grpc).Stuck Completes w) :
    Rested w := by
  have hlive := hw.live
  obtain ⟨h, hages, -, -⟩ := hw
  have hnone : w.impl.call.outstanding = [] := by
    cases hout : w.impl.call.outstanding with
    | nil => rfl
    | cons tag rest =>
      have hstep : ∃ t, step grpc w (.complete 0 true []) = some t := by
        simp [step, Call.complete, hout]
      obtain ⟨t, ht⟩ := hstep
      exact absurd ht (hstuck (.complete 0 true []) t trivial)
  have hempty : getQueueSize w.impl = 0 := by
    rw [getQueueSize, queue_of_rest h hlive hnone]
    rfl
  have hidle : l.flying = none := by
    have hflying := h.outstanding
    rw [hnone] at hflying
    cases hl : l.flying with
    | none => rfl
    | some m => simp [hl] at hflying
  obtain ⟨hwaiting, hsent⟩ := h.settled hlive hidle
  constructor
  · exact hnone
  · intro pc hmem
    by_contra hbusy
    obtain ⟨thread, hpc⟩ := List.mem_iff_getElem?.mp hmem
    obtain ⟨pc', t, hrun⟩ := exists_run grpc hbusy w.impl
    have hcalm : Completes w (.run thread) := by
      intro pc'' hpc'' hspins
      cases pc'' <;> simp_all [Spins]
    exact absurd (step_run_eq (hages.alive_of_busy hpc hbusy) hpc hrun) (hstuck _ _ hcalm)
  · intro hlife
    refine absurd ?_ (hstuck .destroyWait { w with life := .destroyed } hempty)
    simp [machine, step, hlife, hempty]
  · rw [h.finished, h.accepted, Lane.accepted_of_idle hidle hwaiting]
  · rw [h.statusAttempt, h.firstClose hlive]
    cases hclosing : l.closing with
    | none => simp
    | some status => simp [hsent (by simp [hclosing])]

end worlds

/-- From every state that a writer and its threads can be in, with nothing refused: whatever
the order of the completions and of the threads, all calls return after a bounded number of
steps, every accepted message has been sent, and the status of the first Close behind them. -/
theorem calls_return {grpc : Nat → Bool} {n : Nat} {ls : List Label} {w : World}
    (hrun : (machine grpc).run (initial n) ls = some w)
    (hclean : collect Event.refused w.impl.call.log = []) (hgrpc : Grants grpc w.impl) :
    (machine grpc).Finishes Completes Rested (left w) w := by
  have hunderway : ∃ l, Underway grpc w l := by
    obtain ⟨l, -, h⟩ := run_refines hrun
    exact ⟨l, h, run_ages hrun, hclean, hgrpc⟩
  apply Machine.finishes (I := fun w => ∃ l, Underway grpc w l)
  · rintro w label w' ⟨l, h⟩ hlabel hstep
    obtain ⟨l', -, h', -⟩ := h.goes_on hlabel hstep
    exact ⟨l', h'⟩
  · rintro w label w' ⟨l, h⟩ hlabel hstep
    obtain ⟨l', -, -, hleft⟩ := h.goes_on hlabel hstep
    exact hleft
  · rintro w ⟨l, h⟩ hstuck
    exact h.rested hstuck
  · exact hunderway

/-- A `SyncWrite` that waits for the message before its own, and a `SyncClose` behind it. -/
def waitingLabels : List Label :=
  [.call 0 (.asyncWrite [1]), .run 0, .call 0 (.syncWrite [2]), .run 0,
    .call 1 (.syncClose .OK), .run 1]

theorem calls_return_waiting :
    ∃ w, (machine fun _ => true).run (initial 2) waitingLabels = some w ∧
      (machine fun _ => true).Finishes Completes Rested 6 w := by
  have hrun : (machine fun _ => true).run (initial 2) waitingLabels = some _ := rfl
  exact ⟨_, hrun, calls_return hrun (by decide) fun _ _ => rfl⟩

end GrpcCbCore.Server.WriterImpl
