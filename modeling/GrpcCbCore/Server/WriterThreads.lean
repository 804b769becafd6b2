import GrpcCbCore.Server.WriterImpl
import GrpcCbCore.Library.Machine

/-! The threads that use one `ServerWriterImpl`. `Write`, `SyncWrite` and
`SyncClose` are several sections with other threads' sections and completions
between them; a program counter says which section a thread enters next. -/
namespace GrpcCbCore.Server.WriterImpl
open GrpcCbCore.Library

inductive Request where
  | write (response : StdString)
  | syncWrite (response : StdString)
  | asyncWrite (response : StdString)
  | syncClose (status : Status)
  | asyncClose (status : Status)
  deriving DecidableEq, Repr

/-- A waiting `SyncWrite` remembers how many messages were accepted before its own. -/
inductive Pc where
  | idle
  | write (response : StdString)
  | asyncWrite (response : StdString)
  | syncWrite (response : StdString)
  | syncWriteWait (response : StdString) (ticket : Nat)
  | syncWriteResult (response : StdString) (ticket : Nat)
  | asyncClose (status : Status)
  | syncClose (status : Status)
  | syncCloseWait
  deriving DecidableEq, Repr

/-- The section a call enters first. -/
def Request.entry : Request → Pc
  | .write response => .write response
  | .syncWrite response => .syncWrite response
  | .asyncWrite response => .asyncWrite response
  | .syncClose status => .syncClose status
  | .asyncClose status => .asyncClose status

@[simp] def accepted : Event Note → Option StdString
  | .note (.asyncWrite response true) => some response
  | _ => none

@[simp] def userClose : Event Note → Option Status
  | .note (.asyncClose status) => some status
  | _ => none

@[simp] def closeCall : Event Note → Option Status
  | .note (.asyncClose status) => some status
  | .note .destroy => some .OK
  | _ => none

section

variable (grpc : Nat → Bool)

def asyncWriteSection (response : StdString) (s : Impl) : Bool × Impl :=
  let r := asyncWrite grpc response s
  (r.1, r.2.note (.asyncWrite response r.1))

def asyncCloseSection (status : Status) (s : Impl) : Impl :=
  asyncClose grpc status (s.note (.asyncClose status))

/-- The section at a program counter, and where the thread goes on. -/
def runSection : Pc → Impl → Option (Pc × Impl)
  | .idle, _ => none
  | .write response, s =>
      some (if s.queue.length ≥ s.highQueueSize then .syncWrite response
        else .asyncWrite response, s)
  | .asyncWrite response, s => some (.idle, (asyncWriteSection grpc response s).2)
  | .syncWrite response, s =>
      match asyncWriteSection grpc response s with
      | (true, t) => some (.syncWriteWait response (collect accepted s.call.log).length, t)
      | (false, t) => some (.idle, t.note (.syncWriteReturns response none false))
  | .syncWriteWait response ticket, s =>
      some (if getQueueSize s ≠ 0 then .syncWriteWait response ticket
        else .syncWriteResult response ticket, s)
  | .syncWriteResult response ticket, s =>
      some (.idle, s.note (.syncWriteReturns response (some ticket) (!s.closed)))
  | .asyncClose status, s => some (.idle, asyncCloseSection grpc status s)
  | .syncClose status, s => some (.syncCloseWait, asyncCloseSection grpc status s)
  | .syncCloseWait, s => some (if getQueueSize s ≠ 0 then .syncCloseWait else .idle, s)

/-- `DoComplete` of the tag: only the write tag has a callback. -/
def doComplete (tag : CqTag) (junk : List StdString) (s : Impl) : Impl :=
  match tag with
  | .serverWriterWrite _ _ => tryToWriteNext grpc junk s
  | _ => s

end

/-- The destructor runs `SyncClose(Status::OK)`, so it too may have to wait. -/
inductive Life where
  | alive | destroying | destroyed
  deriving DecidableEq, Repr

structure World where
  impl : Impl := {}
  threads : List Pc
  life : Life := .alive

inductive Label where
  | call (thread : Nat) (request : Request)
  | run (thread : Nat)
  | setHighQueueSize (size : Nat)
  | complete (index : Nat) (success : Bool) (junk : List StdString)
  | destroy
  | destroyWait
  deriving DecidableEq, Repr

/-- Nobody refers to the object: no thread is inside a call, and no write tag,
whose callback shares the object, is outstanding. -/
def World.unreferenced (w : World) : Bool :=
  w.threads.all (· = .idle) && (w.impl.call.outstanding.filterMap CqTag.message?).isEmpty

def step (grpc : Nat → Bool) (w : World) : Label → Option World
  | .call thread request =>
      if w.life = .alive ∧ w.threads[thread]? = some .idle then
        some { w with threads := w.threads.set thread request.entry }
      else none
  | .run thread =>
      if w.life = .alive then
        match w.threads[thread]? with
        | none => none
        | some pc =>
          match runSection grpc pc w.impl with
          | none => none
          | some (pc', impl) =>
            some { w with impl := impl, threads := w.threads.set thread pc' }
      else none
  | .setHighQueueSize size =>
      if w.life = .alive then
        some { w with impl := { w.impl with highQueueSize := size } }
      else none
  | .complete index success junk =>
      match w.impl.call.complete index success {} with
      | none => none
      | some (tag, call) =>
        some { w with impl := doComplete grpc tag junk { w.impl with call := call } }
  | .destroy =>
      if w.life = .alive ∧ w.unreferenced = true then
        let impl := w.impl.note .destroy
        let impl := impl.check .destructorQueue impl.queue.isEmpty
        some { w with impl := asyncClose grpc .OK impl, life := .destroying }
      else none
  | .destroyWait =>
      if w.life = .destroying then
        some { w with life := if getQueueSize w.impl ≠ 0 then .destroying else .destroyed }
      else none

def machine (grpc : Nat → Bool) : Machine World Label where
  step := step grpc

inductive Steps (grpc : Nat → Bool) (w : World) : Label → World → Prop
  | calls (thread : Nat) (request : Request) (halive : w.life = .alive)
      (hpc : w.threads[thread]? = some .idle) :
      Steps grpc w (.call thread request) { w with
        threads := w.threads.set thread request.entry }
  | runs (thread : Nat) (pc pc' : Pc) (impl : Impl) (halive : w.life = .alive)
      (hpc : w.threads[thread]? = some pc)
      (hrun : runSection grpc pc w.impl = some (pc', impl)) :
      Steps grpc w (.run thread) { w with impl := impl, threads := w.threads.set thread pc' }
  | sets (size : Nat) (halive : w.life = .alive) :
      Steps grpc w (.setHighQueueSize size) { w with
        impl := { w.impl with highQueueSize := size } }
  | completes (index : Nat) (success : Bool) (junk : List StdString) (tag : CqTag)
      (call : Call Note) (hcall : w.impl.call.complete index success {} = some (tag, call)) :
      Steps grpc w (.complete index success junk) { w with
        impl := doComplete grpc tag junk { w.impl with call := call } }
  | destroys (halive : w.life = .alive) (hidle : w.threads.all (· = .idle) = true)
      (hnone : (w.impl.call.outstanding.filterMap CqTag.message?).isEmpty = true) :
      Steps grpc w .destroy { w with
        impl := asyncClose grpc .OK ((w.impl.note .destroy).check .destructorQueue
          (w.impl.note .destroy).queue.isEmpty)
        life := .destroying }
  | waits (hlife : w.life = .destroying) :
      Steps grpc w .destroyWait { w with
        life := if getQueueSize w.impl ≠ 0 then .destroying else .destroyed }

section inversion

variable {grpc : Nat → Bool} {w w' : World}

theorem step_run {thread : Nat} (h : step grpc w (.run thread) = some w') :
    w.life = .alive ∧ ∃ pc pc' impl, w.threads[thread]? = some pc ∧
      runSection grpc pc w.impl = some (pc', impl) ∧
      w' = { w with impl := impl, threads := w.threads.set thread pc' } := by
  simp only [step, Option.ite_none_right_eq_some] at h
  obtain ⟨halive, h⟩ := h
  refine ⟨halive, ?_⟩
  cases hpc : w.threads[thread]? with
  | none => simp [hpc] at h
  | some pc =>
    cases hrun : runSection grpc pc w.impl with
    | none => simp [hpc, hrun] at h
    | some r =>
      simp only [hpc, hrun, Option.some.injEq] at h
      exact ⟨pc, r.1, r.2, rfl, hrun, h.symm⟩

theorem step_run_eq {thread : Nat} {pc pc' : Pc} {impl : Impl} (halive : w.life = .alive)
    (hpc : w.threads[thread]? = some pc) (hrun : runSection grpc pc w.impl = some (pc', impl)) :
    step grpc w (.run thread) =
      some { w with impl := impl, threads := w.threads.set thread pc' } := by
  simp only [step, if_pos halive, hpc, hrun]

theorem step_complete {index : Nat} {success : Bool} {junk : List StdString}
    (h : step grpc w (.complete index success junk) = some w') :
    ∃ tag call, w.impl.call.complete index success {} = some (tag, call) ∧
      w' = { w with impl := doComplete grpc tag junk { w.impl with call := call } } := by
  cases hcall : w.impl.call.complete index success {} with
  | none => simp [step, hcall] at h
  | some r =>
    simp only [step, hcall, Option.some.injEq] at h
    exact ⟨r.1, r.2, rfl, h.symm⟩

theorem step_steps {label : Label} (hstep : step grpc w label = some w') :
    Steps grpc w label w' := by
  cases label with
  | call thread request =>
    simp only [step, Option.ite_none_right_eq_some, Option.some.injEq] at hstep
    obtain ⟨⟨halive, hpc⟩, rfl⟩ := hstep
    exact .calls thread request halive hpc
  | run thread =>
    obtain ⟨halive, pc, pc', impl, hpc, hrun, rfl⟩ := step_run hstep
    exact .runs thread pc pc' impl halive hpc hrun
  | setHighQueueSize size =>
    simp only [step, Option.ite_none_right_eq_some, Option.some.injEq] at hstep
    obtain ⟨halive, rfl⟩ := hstep
    exact .sets size halive
  | complete index success junk =>
    obtain ⟨tag, call, hcall, rfl⟩ := step_complete hstep
    exact .completes index success junk tag call hcall
  | destroy =>
    simp only [step, Option.ite_none_right_eq_some, Option.some.injEq] at hstep
    obtain ⟨⟨halive, hfree⟩, rfl⟩ := hstep
    obtain ⟨hidle, hnone⟩ := Bool.and_eq_true_iff.mp hfree
    exact .destroys halive hidle hnone
  | destroyWait =>
    simp only [step, Option.ite_none_right_eq_some, Option.some.injEq] at hstep
    obtain ⟨hlife, rfl⟩ := hstep
    exact .waits hlife

/-- What the sections of `AsyncWrite` and `AsyncClose` and the return of a
`SyncWrite` keep, every section keeps. -/
theorem runSection_keeps {I : Impl → Prop} {s t : Impl} {pc pc' : Pc} (hs : I s)
    (hwrite : ∀ response, I (asyncWriteSection grpc response s).2)
    (hclose : ∀ status, I (asyncCloseSection grpc status s))
    (hreturn : ∀ u response ticket result, I u →
      I (u.note (.syncWriteReturns response ticket result)))
    (hrun : runSection grpc pc s = some (pc', t)) : I t := by
  cases pc with
  | idle => simp [runSection] at hrun
  | write response => cases hrun; exact hs
  | asyncWrite response => cases hrun; exact hwrite response
  | syncWrite response =>
    have hsection := hwrite response
    simp only [runSection] at hrun
    rcases hr : asyncWriteSection grpc response s with ⟨_ | _, u⟩ <;>
      rw [hr] at hrun hsection <;> cases hrun
    · exact hreturn u response none false hsection
    · exact hsection
  | syncWriteWait response ticket => cases hrun; exact hs
  | syncWriteResult response ticket => cases hrun; exact hreturn s response _ _ hs
  | asyncClose status => cases hrun; exact hclose status
  | syncClose status => cases hrun; exact hclose status
  | syncCloseWait => cases hrun; exact hs

end inversion

def initial (n : Nat) : World where
  threads := List.replicate n .idle

end GrpcCbCore.Server.WriterImpl
