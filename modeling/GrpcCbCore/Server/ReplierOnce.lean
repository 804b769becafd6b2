import GrpcCbCore.Server.ReplierImpl
import GrpcCbCore.Library.Gate

/-! `replied_` is a gate. It lets one reply through where no thread loads it between
another's load and store; else it may let two through. -/
namespace GrpcCbCore.Server.ReplierImpl
open GrpcCbCore.Library

def Pc.isStore : Pc → Bool
  | .store _ => true
  | _ => false

def Pc.isStart : Pc → Bool
  | .start _ => true
  | _ => false

def World.replies (w : World) : List CqTag := collect Event.attempt w.impl.call.log

def World.gate (w : World) : Gate where
  shut := w.impl.replied
  testing := w.threads.countP Pc.isStore
  passing := w.threads.countP Pc.isStart
  passed := w.replies.length

def acts : Label → List Gate.Act
  | .load _ _ => [.test]
  | .store _ => [.shut]
  | .start _ => [.pass]
  | .complete _ _ => []

/-- No load of `replied_` finds it false while another thread that has is still to
store. -/
def Alone (w : World) : Label → Prop
  | .load _ _ => w.impl.replied = false → ∀ request, .store request ∉ w.threads
  | _ => True

section gate

variable {grpc : Nat → Bool} {w w' : World}

private theorem countP_set {threads : List Pc} {thread : Nat} {pc : Pc}
    (hpc : threads[thread]? = some pc) (p : Pc → Bool) (next : Pc) :
    (threads.set thread next).countP p + (if p pc then 1 else 0) =
      threads.countP p + (if p next then 1 else 0) := by
  obtain ⟨hlt, rfl⟩ := List.getElem?_eq_some_iff.mp hpc
  rw [List.countP_set hlt]
  by_cases hp : p threads[thread] = true
  · have hpos : 0 < threads.countP p := List.countP_pos_iff.mpr ⟨_, List.getElem_mem hlt, hp⟩
    simp only [hp, if_true]
    omega
  · simp [hp]

/-- The replier refines the gate. -/
theorem step_gate {label : Label} (hstep : step grpc w label = some w') :
    Gate.machine.run w.gate (acts label) = some w'.gate := by
  cases label with
  | load thread request =>
    obtain ⟨hpc, rfl⟩ := step_load hstep
    have hstore := countP_set hpc Pc.isStore (load request w.impl)
    have hstart := countP_set hpc Pc.isStart (load request w.impl)
    cases hreplied : w.impl.replied <;>
      simp_all [acts, World.gate, World.replies, load, Gate.machine, Gate.step, Machine.run,
        Pc.isStore, Pc.isStart]
  | store thread =>
    obtain ⟨request, hpc, rfl⟩ := step_store hstep
    have hstore := countP_set hpc Pc.isStore (.start request)
    have hstart := countP_set hpc Pc.isStart (.start request)
    simp only [Pc.isStore, Pc.isStart, if_true, Bool.false_eq_true, if_false] at hstore hstart
    have hne : w.threads.countP Pc.isStore ≠ 0 := by omega
    simp [acts, World.gate, World.replies, store, Gate.machine, Gate.step, Machine.run, hne]
    omega
  | start thread =>
    obtain ⟨request, hpc, rfl⟩ := step_start hstep
    have hstore := countP_set hpc Pc.isStore .idle
    have hstart := countP_set hpc Pc.isStart .idle
    simp only [Pc.isStore, Pc.isStart, if_true, Bool.false_eq_true, if_false] at hstore hstart
    have hne : w.threads.countP Pc.isStart ≠ 0 := by omega
    simp [acts, World.gate, World.replies, start, Gate.machine, Gate.step, Machine.run, hne]
    omega
  | complete index success =>
    obtain ⟨tag, call, hcall, rfl⟩ := step_complete hstep
    simp [acts, World.gate, World.replies, Call.complete_log hcall]

private theorem alone_acts {label : Label} (h : Alone w label) :
    Gate.machine.Along Gate.Alone w.gate (acts label) := by
  intro before act after g hacts hg
  have hmem : act ∈ acts label := by simp [hacts]
  cases label with
  | load thread request =>
    cases before with
    | nil =>
      cases hg
      intro _ hopen
      refine List.countP_eq_zero.mpr fun pc hpc hstore => ?_
      cases pc with
      | store other => exact h hopen other hpc
      | _ => simp [Pc.isStore] at hstore
    | cons _ _ => simp [acts] at hacts
  | store thread =>
    rintro rfl
    simp [acts] at hmem
  | start thread =>
    rintro rfl
    simp [acts] at hmem
  | complete index success => simp [acts] at hmem

private theorem initial_gate (n : Nat) : (initial n).gate = {} := by
  simp [World.gate, World.replies, initial, List.countP_replicate, Pc.isStore, Pc.isStart]

theorem alone_single {n : Nat} {ls : List Label}
    (halone : (machine grpc).Along Alone (initial n) ls)
    (hrun : (machine grpc).run (initial n) ls = some w) : Gate.Single w.gate := by
  have hinit : Gate.Single (initial n).gate := by
    rw [initial_gate]
    simp [Gate.Single]
  exact Machine.invariant_along (I := fun w => Gate.Single w.gate)
    (fun _ _ _ h halone hstep => h.run (alone_acts halone) (step_gate hstep)) hinit halone hrun

/-- Two threads that have found `replied_` false may both go on to reply. -/
theorem overlap_replies {i j : Nat} {other request : Request}
    (hi : w.threads[i]? = some (.store other)) (hj : w.threads[j]? = some .idle)
    (hopen : w.impl.replied = false) :
    ∃ w', (machine grpc).run w
        [.load j request, .store i, .store j, .start i, .start j] = some w' ∧
      w'.replies.length = w.replies.length + 2 := by
  have hij : i ≠ j := by
    rintro rfl
    simp [hi] at hj
  have hilt := (List.getElem?_eq_some_iff.mp hi).1
  have hjlt := (List.getElem?_eq_some_iff.mp hj).1
  have hload : load request w.impl = .store request := by simp [load, hopen]
  have hstart (k : Nat) (hk : k < w.threads.length) (pc : Pc) (threads : List Pc)
      (hlength : threads.length = w.threads.length) : (threads.set k pc)[k]? = some pc :=
    List.getElem?_set_self (by omega)
  simp only [Machine.run, machine, step, hj, hload, hi, Option.bind_some,
    List.getElem?_set_ne hij, List.getElem?_set_ne hij.symm, hstart i hilt, hstart j hjlt,
    List.length_set]
  refine ⟨_, rfl, ?_⟩
  simp [World.replies, start, store]

end gate

/-- At most one reply batch as long as every load of `replied_` is alone; and behind
any other load two replies may follow. -/
theorem replies_once {grpc : Nat → Bool} {n : Nat} {ls : List Label} {w : World}
    (halone : (machine grpc).Along Alone (initial n) ls)
    (hrun : (machine grpc).run (initial n) ls = some w) :
    w.replies.length ≤ 1 ∧
    ∀ thread request, w.threads[thread]? = some .idle → ¬ Alone w (.load thread request) →
      ∃ more w', (machine grpc).run w (.load thread request :: more) = some w' ∧
        1 < w'.replies.length := by
  refine ⟨(alone_single halone hrun).passed_le, fun thread request hidle hbad => ?_⟩
  simp only [Alone, not_forall, not_not] at hbad
  obtain ⟨hopen, other, hother⟩ := hbad
  obtain ⟨i, hi⟩ := List.mem_iff_getElem?.mp hother
  obtain ⟨w', hmore, hreplies⟩ := overlap_replies hi hidle hopen
  exact ⟨_, w', hmore, by omega⟩

/-- A reply and, behind its start, an error that comes too late. -/
def lateLabels : List Label :=
  [.load 0 (.replyStr [1]), .store 0, .load 1 (.replyError (.internalError [2])), .start 0]

theorem replies_once_late :
    ∃ w, (machine fun _ => true).run (initial 2) lateLabels = some w ∧
      w.replies.length ≤ 1 := by
  have hrun : (machine fun _ => true).run (initial 2) lateLabels = some _ := rfl
  refine ⟨_, hrun, (replies_once ?_ hrun).1⟩
  rw [lateLabels, Machine.along_cons rfl, Machine.along_cons rfl, Machine.along_cons rfl,
    Machine.along_cons rfl]
  refine ⟨fun _ request => ?_, trivial, fun hopen => ?_, trivial, Machine.along_nil _ _⟩
  · simp [initial]
  · cases hopen

/-- Two threads that load `replied_` before either stores it. -/
def racingLabels : List Label :=
  [.load 0 (.replyStr [1]), .load 1 (.replyError (.internalError [2])), .store 0, .store 1,
    .start 0, .start 1]

theorem racing_replies :
    ∃ w, (machine fun _ => true).run (initial 2) racingLabels = some w ∧
      w.replies = [.serverReplierReply [1] true,
        .serverReplierReplyError (.internalError [2]) true] :=
  ⟨_, rfl, rfl⟩

end GrpcCbCore.Server.ReplierImpl
