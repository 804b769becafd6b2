import GrpcCbCore.Client.WriterProgress
import GrpcCbCore.Client.WriterClosing
import GrpcCbCore.Library.Pipe

/-! `ClientAsyncWriter`, whose copies share one `ClientAsyncWriterImplWrapper`. The
wrapper is destroyed with the last copy, and closes the writer then; the writer itself
lives on in its tags. -/
namespace GrpcCbCore.Client.WriterImpl
open GrpcCbCore.Library

section closing

variable {grpc : Nat → Bool} {s : Impl}

private theorem callCloseCb_isClosing (hclosing : s.isClosing = true) (cb : List Op)
    (sMsg : StdString) : (callCloseCb (runOps grpc cb) sMsg s).isClosing = true := by
  rw [callCloseCb_closing hclosing]
  split <;> exact hclosing

private theorem runOp_close_isClosing {l : Lane StdString Unit} (h : Refines s l)
    (hasCloseCb : Bool) : (runOp grpc (.close hasCloseCb []) s).isClosing = true := by
  rw [runOp]
  obtain ⟨hclosing, heq⟩ | ⟨-, -, -, heq⟩ | ⟨-, -, -, heq⟩ | ⟨hopen, hok, -, -, heq⟩ :=
    close_cases grpc (runOps grpc []) h (.close hasCloseCb) hasCloseCb <;> rw [heq]
  · exact hclosing
  · exact callCloseCb_isClosing rfl [] []
  · have hunsent : s.hasSentClose = false :=
      h.sentClose.trans (h.toTracks.live hok hopen).2.2
    rcases Bool.eq_false_or_eq_true (grpc s.call.starts) with hgrpc | hgrpc
    · rw [sendClose_accepted (s := { s.note (.close hasCloseCb) with
        isClosing := true, closeCb := hasCloseCb }) hok rfl hunsent hgrpc]
    · rw [sendClose_refused (s := { s.note (.close hasCloseCb) with
        isClosing := true, closeCb := hasCloseCb }) hok rfl hunsent hgrpc]
      exact callCloseCb_isClosing rfl [] []

end closing

/-- The writer, and how many `ClientAsyncWriter` objects refer to its wrapper. -/
structure Wrapper where
  impl : Impl
  copies : Nat := 1

namespace Wrapper

/-- `op` is a call through a copy. A close callback may call the writer through the copy
that it holds, if it holds one. -/
inductive Label where
  | copy
  | destroy
  | op (op : Op)
  | complete (index : Nat) (success : Bool) (received : Received) (cb : List Op)

section

variable (grpc : Nat → Bool)

def clientAsyncWriter : Wrapper where
  impl := clientAsyncWriterImpl grpc

/-- `~ClientAsyncWriterImplWrapper`: a Close without a callback. -/
def dtor (s : Impl) : Impl := runOp grpc (.close false []) s

/-- Behind a crash no copy is made, called or destroyed. -/
def step (w : Wrapper) (label : Label) : Option Wrapper :=
  if w.impl.crashed then none
  else
    match label with
    | .copy => if w.copies = 0 then none else some { w with copies := w.copies + 1 }
    | .destroy =>
        match w.copies with
        | 0 => none
        | 1 => some { impl := dtor grpc w.impl, copies := 0 }
        | n + 2 => some { w with copies := n + 1 }
    | .op op => if w.copies = 0 then none else some { w with impl := runOp grpc op w.impl }
    | .complete index success received cb =>
        if w.copies = 0 ∧ ¬ cb.isEmpty then none
        else (WriterImpl.step grpc w.impl (.complete index success received cb)).map fun impl =>
          { w with impl := impl }

def machine : Machine Wrapper Label where
  step := step grpc

end

section steps

variable {grpc : Nat → Bool} {w w' : Wrapper}

/-- What a step of the copies is to the writer: nothing, while the writer lives on or copies
are left, or a step of the writer, which closes it where the last copy is destroyed. -/
theorem step_cases {label : Label} (hstep : step grpc w label = some w') :
    (w'.impl = w.impl ∧ w'.copies ≠ 0) ∨
    (∃ op, label = .op op ∧ WriterImpl.step grpc w.impl (.op op) = some w'.impl ∧
      w'.copies ≠ 0) ∨
    (label = .destroy ∧ WriterImpl.step grpc w.impl (.op (.close false [])) = some w'.impl) ∨
    ∃ index success received cb, label = .complete index success received cb ∧
      WriterImpl.step grpc w.impl (.complete index success received cb) = some w'.impl ∧
      w'.copies = w.copies := by
  unfold step at hstep
  split at hstep
  · cases hstep
  · next hcrashed =>
    have hrunning : w.impl.crashed = false := by simpa using hcrashed
    have hop (op : Op) : WriterImpl.step grpc w.impl (.op op) = some (runOp grpc op w.impl) := by
      simp [WriterImpl.step, hrunning]
    cases label with
    | copy =>
      simp only [Option.ite_none_left_eq_some, Option.some.injEq] at hstep
      obtain ⟨-, rfl⟩ := hstep
      exact .inl ⟨rfl, Nat.succ_ne_zero _⟩
    | destroy =>
      rcases w with ⟨impl, _ | _ | n⟩ <;> simp only [Option.some.injEq, reduceCtorEq] at hstep
      · subst hstep
        exact .inr (.inr (.inl ⟨rfl, hop _⟩))
      · subst hstep
        exact .inl ⟨rfl, Nat.succ_ne_zero _⟩
    | op op =>
      simp only [Option.ite_none_left_eq_some, Option.some.injEq] at hstep
      obtain ⟨hcopies, rfl⟩ := hstep
      exact .inr (.inl ⟨op, rfl, hop op, hcopies⟩)
    | complete index success received cb =>
      simp only [Option.ite_none_left_eq_some, Option.map_eq_some_iff] at hstep
      obtain ⟨-, impl, himpl, rfl⟩ := hstep
      exact .inr (.inr (.inr ⟨index, success, received, cb, rfl, himpl, rfl⟩))

private theorem step_impl {label : Label} (hstep : step grpc w label = some w') :
    w'.impl = w.impl ∨ ∃ l, WriterImpl.step grpc w.impl l = some w'.impl := by
  rcases step_cases hstep with ⟨hsame, -⟩ | ⟨op, -, himpl, -⟩ | ⟨-, himpl⟩ |
    ⟨_, _, _, _, -, himpl, -⟩
  · exact .inl hsame
  all_goals exact .inr ⟨_, himpl⟩

/-- A run of the wrapper is a run of the writer that its copies share. -/
theorem run_impl {ls : List Label} (hrun : (machine grpc).run w ls = some w') :
    ∃ ks, (WriterImpl.machine grpc).run w.impl ks = some w'.impl :=
  Machine.run_simulates (M := machine grpc) (N := WriterImpl.machine grpc) (f := Wrapper.impl)
    (fun _ _ _ hstep => step_impl hstep) hrun

/-- grpc carries out what it has accepted, and the server sends its response; nobody refers
to the writer any more. -/
def Completes (w : Wrapper) : Label → Prop
  | .complete index success received cb =>
      WriterImpl.Completes w.impl (.complete index success received cb)
  | _ => False

/-- The lane of the writer, which the last copy has shut. -/
structure Owned (w : Wrapper) (l : Lane StdString Unit) : Prop where
  refines : Refines w.impl l
  closes : Closes w.impl
  shut : w.copies = 0 → l.broken = true ∨ l.closing.isSome = true

theorem Owned.step {l : Lane StdString Unit} (h : Owned w l) {label : Label}
    (hstep : step grpc w label = some w') : ∃ l', Owned w' l' := by
  rcases step_cases hstep with ⟨hsame, hcopies⟩ | ⟨op, -, himpl, hcopies⟩ | ⟨-, himpl⟩ |
    ⟨_, _, _, _, -, himpl, hcopies⟩
  case inl =>
    exact ⟨l, hsame ▸ h.refines, hsame ▸ h.closes, fun hnone => absurd hnone hcopies⟩
  all_goals
    obtain ⟨l', hsteps, hrefines⟩ := step_refines h.refines himpl
    have hcloses := step_closes h.refines h.closes himpl
  · exact ⟨l', hrefines, hcloses, fun hnone => absurd hnone hcopies⟩
  · have hclosing : w'.impl.isClosing = true := by
      rw [step_op himpl]
      exact runOp_close_isClosing h.refines false
    exact ⟨l', hrefines, hcloses, fun _ => hrefines.asked hclosing⟩
  · exact ⟨l', hrefines, hcloses, fun hnone => hsteps.shut (h.shut (hcopies ▸ hnone))⟩

private theorem run_owned {ls : List Label}
    (hrun : (machine grpc).run (clientAsyncWriter grpc) ls = some w) :
    ∃ l, Owned w l := by
  refine Machine.invariant (M := machine grpc) (I := fun w => ∃ l, Owned w l)
    (fun _ _ _ h hstep => h.elim fun _ h => h.step hstep) ?_ hrun
  obtain ⟨l, -, h⟩ := construct_refines grpc
  exact ⟨l, h, construct_closes grpc, by simp [clientAsyncWriter]⟩

/-- A dropped writer with nothing failed, and what it has accepted. -/
structure Dropped (w : Wrapper) (requests : List StdString) (l : Lane StdString Unit) : Prop
    extends Owned w l where
  dropped : w.copies = 0
  running : w.impl.crashed = false
  live : l.broken = false
  accepted : l.accepted = requests

theorem Dropped.closing {requests : List StdString} {l : Lane StdString Unit}
    (h : Dropped w requests l) : l.closing.isSome = true := by
  simpa [h.live] using h.shut h.dropped

theorem Dropped.step (hgrpc : ∀ k, grpc k = true) {requests : List StdString}
    {l : Lane StdString Unit} (h : Dropped w requests l) {label : Label}
    (hlabel : Completes w label) (hstep : step grpc w label = some w') :
    (∃ l', Dropped w' requests l') ∧ left w'.impl < left w.impl := by
  cases label with
  | complete index success received cb =>
    unfold Wrapper.step at hstep
    rw [if_neg (by simp [h.running])] at hstep
    simp only [Option.ite_none_left_eq_some, Option.map_eq_some_iff] at hstep
    obtain ⟨-, impl, himpl, rfl⟩ := hstep
    have hcompletes : WriterImpl.Completes w.impl (.complete index success received cb) := hlabel
    obtain ⟨l', hsteps, hrefines, hlive, hrunning, hless⟩ :=
      step_progress hgrpc h.refines h.live hcompletes himpl
    refine ⟨⟨l', ⟨hrefines, step_closes h.refines h.closes himpl,
      fun hnone => hsteps.shut (h.shut hnone)⟩, h.dropped, hrunning, hlive, ?_⟩, hless⟩
    rw [(hsteps.asked h.closing).2, h.accepted]
  | _ => exact absurd hlabel (by simp [Completes])

structure Finished (requests : List StdString) (w : Wrapper) : Prop where
  free : w.impl.call.outstanding = []
  delivered : collect Event.delivered w.impl.call.log = requests
  closed : collect closeAttempt w.impl.call.log = [()]
  called : (collect closeCall w.impl.call.log).head? = some true →
    (collect closeCbCall w.impl.call.log).length = 1

theorem Dropped.finished {requests : List StdString} {l : Lane StdString Unit}
    (h : Dropped w requests l) (hstuck : (machine grpc).Stuck Completes w) :
    Finished requests w := by
  have hfree : w.impl.call.outstanding = [] := by
    cases hout : w.impl.call.outstanding with
    | nil => rfl
    | cons tag rest =>
      have hstep : ∃ t, Wrapper.step grpc w
          (.complete 0 true { recvBuf := some (.readable []) } []) = some t := by
        simp [Wrapper.step, WriterImpl.step, h.running, Call.complete, hout]
      obtain ⟨t, ht⟩ := hstep
      have hgood : Completes w (.complete 0 true { recvBuf := some (.readable []) } []) :=
        ⟨rfl, by simp [Missing]⟩
      exact absurd ht (hstuck _ t hgood)
  obtain ⟨hall, hclose⟩ := h.refines.at_rest h.live hfree
  have hclean := h.refines.clean.mp h.live
  obtain ⟨word, hword⟩ := Option.isSome_iff_exists.mp h.closing
  constructor
  · exact hfree
  · rw [Event.delivered_eq_finished hclean, ← h.accepted, hall, ← h.refines.ledger.finished]
    exact (collect_flatMap _ fun e => (sights_columns e).2.2.1).symm
  · rw [h.refines.closeAttempt, if_pos (hclose h.closing), hword]
    rfl
  · intro hfirst
    have hcalled : collect closeCbCall w.impl.call.log ≠ [] := by
      rcases h.closes.called_at_rest h.refines hfirst (by simp [hfree]) with hcalled | ⟨hcrashed, -⟩
      · exact hcalled
      · simp [h.running] at hcrashed
    have honce := h.closes.called_once
    have hpos := List.length_pos_iff.mpr hcalled
    omega

end steps

/-- When the last copy of a `ClientAsyncWriter` is destroyed, at whatever moment, nothing
it has accepted is lost: if grpc carries out what it has accepted, an OK status comes with a
response, and nothing has failed or crashed before, then in a bounded number of completions,
in any order, every message has been delivered, the close batch has gone out once, and the
callback of the first Close, if there was one, has been called once. -/
theorem dropped_finishes {grpc : Nat → Bool} (hgrpc : ∀ k, grpc k = true) {ls : List Label}
    {w : Wrapper} (hrun : (machine grpc).run (clientAsyncWriter grpc) ls = some w)
    (hdropped : w.copies = 0) (hrunning : w.impl.crashed = false)
    (hclean : collect Event.failed w.impl.call.log = []) :
    (machine grpc).Finishes Completes (Finished (collect accepted w.impl.call.log))
      (left w.impl) w := by
  obtain ⟨l, h⟩ := run_owned hrun
  have hdue : Dropped w (collect accepted w.impl.call.log) l :=
    ⟨h, hdropped, hrunning, h.refines.clean.mpr hclean, h.refines.accepted.symm⟩
  exact Machine.finishes (I := fun t => ∃ l, Dropped t (collect accepted w.impl.call.log) l)
    (fun _ _ _ h hlabel hstep => h.elim fun _ h => (h.step hgrpc hlabel hstep).1)
    (fun _ _ _ h hlabel hstep => h.elim fun _ h => (h.step hgrpc hlabel hstep).2)
    (fun _ h hstuck => h.elim fun _ h => h.finished hstuck) ⟨l, hdue⟩

/-- Two messages and a Close through one copy; the other copy is dropped first. -/
def droppedLabels : List Label :=
  [.copy, .op (.write [1] []), .destroy, .op (.write [2] []), .op (.close true []), .destroy]

theorem dropped_finishes_twoCopies :
    ∃ w, (machine fun _ => true).run (clientAsyncWriter fun _ => true) droppedLabels = some w ∧
      (machine fun _ => true).Finishes Completes (Finished [[1], [2]]) 6 w := by
  have hrun : (machine fun _ => true).run (clientAsyncWriter fun _ => true) droppedLabels =
      some _ := rfl
  exact ⟨_, hrun, dropped_finishes (fun _ => rfl) hrun rfl rfl (by decide)⟩

end Wrapper

end GrpcCbCore.Client.WriterImpl
