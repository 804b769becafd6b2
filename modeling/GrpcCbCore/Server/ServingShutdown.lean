import GrpcCbCore.Library.Progress
import GrpcCbCore.Server.ServingMethods

/-! How a server is shut down. The method calls that are then outstanding are requested
again, and refused; and the loop of `Run` comes upon the server itself, which
`ShutdownInternal` has handed over as a tag. -/
namespace GrpcCbCore.Server.Serving
open GrpcCbCore.Library

@[simp] def refusedRequest : Event → Option Site
  | .fault .constructorCallOk => some .constructorCallOk
  | _ => none

@[simp] def requested : Event → Option Nat
  | .requestRegisteredCall id _ _ _ => some id
  | _ => none

def RequestsOpen (before : List Event) (e : Event) : Prop :=
  requested e ≠ none → .queueShutdown ∉ before

/-- No request is made on a queue that has been shut down, the assert in the constructor
holds, and no tag is left undeleted. -/
structure Clean (s : State) : Prop where
  custody : Custody.Orderly s.custody
  requests : AtEach RequestsOpen s.log
  asserts : collect refusedRequest s.log = []

def Label.ofLoop : Label → Bool
  | .request | .next _ _ | .finish | .queueEmpty => true
  | _ => false

def Label.starts : Label → Bool
  | .newAndStart _ => true
  | _ => false

/-- How many steps the thread of `Run` is still to make on a queue that is shut. -/
def left (s : State) : Nat :=
  2 * s.outstanding.length +
    match s.loop with
    | .outside | .crashed | .returned => 0
    | .requesting rest => rest.length + 2
    | .waiting => 1
    | .completing _ _ _ => 2

/-- Of the loop's steps there are at most those left, and two for each batch that is started
meanwhile. -/
def Bounded (grpc : Grpc) (s : State) : Prop :=
  ∀ more t, (machine grpc).run s more = some t →
    more.countP Label.ofLoop + left t ≤ left s + 2 * more.countP Label.starts

/-- There is a step of the loop to make, however things go on, until it has come here. -/
def ComesTo (grpc : Grpc) (loop : Loop) (s : State) : Prop :=
  ∀ more t, (machine grpc).run s more = some t →
    t.loop = loop ∨ ∃ label u, label.ofLoop = true ∧ step grpc t label = some u

/-- grpc accepts the request of a method call that a step makes, if the queue is open. -/
def Grants (grpc : Grpc) (s : State) (label : Label) : Prop :=
  makes s label ≠ none → grpc.requestRegisteredCall s.requests = true

/-- The server is on the queue once it is being shut down, or has been dispatched. -/
structure Doomed (s : State) : Prop where
  server : s.shutdown = true → .server ∈ s.outstanding ∨ s.loop = .crashed
  unreturned : s.loop ≠ .returned

section drain

variable {grpc : Grpc} {s t : State}

private theorem request_shut (grpc : Grpc) (hshut : s.queueShutdown = true) (m : MethodCall) :
    (serverMethodCallCqTag grpc m s).outstanding = s.outstanding := by
  simp [serverMethodCallCqTag, hshut]

private theorem endComplete_shut (grpc : Grpc) (hshut : s.queueShutdown = true) (tag : Tag) :
    (endComplete grpc tag s).outstanding = s.outstanding := by
  unfold endComplete
  split
  · exact request_shut grpc hshut _
  · rfl

private theorem step_shut (hshut : s.queueShutdown = true) {label : Label}
    (hstep : step grpc s label = some t) : t.queueShutdown = true := by
  cases step_cases hstep with
  | registers service =>
    obtain ⟨answers, -, heq⟩ := registerService_eq grpc service s
    simpa [heq] using hshut
  | finishes id tag success =>
    obtain ⟨-, -, hqueue⟩ := endComplete_frame grpc tag s
    simpa [finish, hqueue] using hshut
  | shutsQueue => rfl
  | _ => exact hshut

/-- Each step of the loop is one of those left; a batch may bring two more. -/
theorem step_left (hsane : Sane s) (hshut : s.queueShutdown = true) {label : Label}
    (hstep : step grpc s label = some t) :
    label.ofLoop.toNat + left t ≤ left s + 2 * label.starts.toNat := by
  cases step_cases hstep with
  | registers service =>
    obtain ⟨answers, -, heq⟩ := registerService_eq grpc service s
    simp [Label.ofLoop, heq, left]
  | runs order hnew =>
    have hstarted : s.started = true := hsane.shutdown (hsane.queue hshut)
    simp [hnew] at hstarted
  | requests m rest hat =>
    have hsame := request_shut grpc hshut m
    simp only [Label.ofLoop, left, hsame, hat, List.length_cons, Bool.toNat_true]
    omega
  | requested hat =>
    simp only [Label.ofLoop, left, hat, List.length_nil, Bool.toNat_true]
    omega
  | next index success ptr hat hptr =>
    have hlt : index < s.outstanding.length := (List.getElem?_eq_some_iff.mp hptr).1
    have hlength := List.length_eraseIdx_of_lt hlt
    cases ptr <;> simp only [Label.ofLoop, left, dispatch, hlength, hat, Bool.toNat_true] <;> omega
  | finishes id tag success hat =>
    have hsame := endComplete_shut grpc hshut tag
    simp only [Label.ofLoop, left, finish, hsame, hat, Bool.toNat_true]
    omega
  | empties hat _ hempty => simp [Label.ofLoop, left, hat, hempty]
  | ignoresShutdown => simp [Label.ofLoop]
  | shuts _ hopen => simp [hsane.queue hshut] at hopen
  | shutsQueue _ hopen => simp [hshut] at hopen
  | starts tag =>
    simp only [Label.ofLoop, Label.starts, left, newAndStart, Bool.toNat_true, Bool.toNat_false]
    split
    · rw [List.length_append, List.length_singleton]
      omega
    · omega

private theorem request_outstanding (grpc : Grpc) (m : MethodCall) (s : State) :
    s.outstanding ⊆ (serverMethodCallCqTag grpc m s).outstanding := by
  intro ptr hptr
  simp only [serverMethodCallCqTag]
  split <;> simp [hptr]

private theorem step_doomed (hsane : Sane s) (h : Doomed s) {label : Label}
    (hstep : step grpc s label = some t) : Doomed t := by
  have hrunning := step_running hstep
  have hserver (hshut : s.shutdown = true) : .server ∈ s.outstanding :=
    (h.server hshut).resolve_right hrunning
  cases step_cases hstep with
  | registers service =>
    obtain ⟨answers, -, heq⟩ := registerService_eq grpc service s
    rw [heq]
    exact ⟨h.server, h.unreturned⟩
  | runs order hnew hopen => exact ⟨fun hshut => by simp [run, hopen] at hshut, by simp [run]⟩
  | requests m rest =>
    exact ⟨fun hshut => .inl (request_outstanding grpc m s (hserver hshut)), by simp⟩
  | requested => exact ⟨fun hshut => .inl (hserver hshut), by simp⟩
  | next index success ptr hloop hptr =>
    refine ⟨fun hshut => ?_, by simp⟩
    cases ptr with
    | server => exact .inr rfl
    | tag id tag =>
      obtain ⟨before, after, hsplit, herase⟩ := exists_eraseIdx hptr
      have hmem := hserver hshut
      rw [hsplit] at hmem
      left
      rw [herase]
      simpa using hmem
  | finishes id tag success =>
    refine ⟨fun hshut => .inl ?_, by simp [finish]⟩
    obtain ⟨-, hsame, -⟩ := endComplete_frame grpc tag s
    have hmem : .server ∈ s.outstanding := hserver (hsame ▸ hshut)
    cases tag with
    | methodCall m => exact request_outstanding grpc m s hmem
    | call tag => exact hmem
  | empties hloop hshut hempty =>
    have hmem := hserver (hsane.queue hshut)
    simp [hempty] at hmem
  | ignoresShutdown => exact h
  | shuts => exact ⟨fun _ => .inl (by simp), h.unreturned⟩
  | shutsQueue => exact ⟨fun hshut => .inl (hserver hshut), h.unreturned⟩
  | starts tag =>
    refine ⟨fun hshut => .inl ?_, h.unreturned⟩
    simp only [newAndStart]
    split <;> simp [hserver hshut]

/-- There is a step to make until the server has been dispatched. -/
theorem loop_goes_on (hsane : Sane s) (hdoomed : Doomed s) (hshut : s.queueShutdown = true)
    (hrunning : s.loop ≠ .crashed) :
    ∃ label t, label.ofLoop = true ∧ step grpc s label = some t := by
  cases hloop : s.loop with
  | outside =>
    have hstarted : s.started = true := hsane.shutdown (hsane.queue hshut)
    simp [hsane.outside.mpr hloop] at hstarted
  | requesting rest => cases rest <;> exact ⟨.request, _, rfl, by simp only [step, hloop]; rfl⟩
  | waiting =>
    cases hheld : s.outstanding with
    | nil =>
      have hmem := (hdoomed.server (hsane.queue hshut)).resolve_right hrunning
      simp [hheld] at hmem
    | cons ptr rest => exact ⟨.next 0 true, _, rfl, by simp only [step, hloop, hheld]; rfl⟩
  | completing id tag success => exact ⟨.finish, _, rfl, by simp only [step, hloop]; rfl⟩
  | crashed => exact absurd hloop hrunning
  | returned => exact absurd hloop hdoomed.unreturned

private theorem run_bounded (hsane : Sane s) (hshut : s.queueShutdown = true) : Bounded grpc s := by
  intro more t hrun
  induction more generalizing s with
  | nil =>
    cases hrun
    simp
  | cons label more ih =>
    obtain ⟨u, hstep, hrest⟩ := (machine grpc).run_cons.mp hrun
    have hmore := ih (step_sane hsane hstep) (step_shut hshut hstep) hrest
    have hleft := step_left hsane hshut hstep
    rw [List.countP_cons, List.countP_cons]
    cases hloop : label.ofLoop <;> cases hstarts : label.starts <;>
      simp only [hloop, hstarts, Bool.toNat_true, Bool.toNat_false, if_true, Bool.false_eq_true,
        if_false] at hleft ⊢ <;> omega

/-- What is known behind the shutdown of the queue. -/
structure Shut (s : State) : Prop where
  sane : Sane s
  doomed : Doomed s
  shut : s.queueShutdown = true

theorem Shut.after (h : Shut s) {label : Label} (hstep : step grpc s label = some t) : Shut t :=
  ⟨step_sane h.sane hstep, step_doomed h.sane h.doomed hstep, step_shut h.shut hstep⟩

theorem Shut.comesTo (h : Shut s) : ComesTo grpc .crashed s := by
  intro more t hrun
  have hafter : Shut t := Machine.invariant (M := machine grpc) (I := Shut)
    (fun _ _ _ h hstep => h.after hstep) h hrun
  by_cases hloop : t.loop = .crashed
  · exact .inl hloop
  · exact .inr (loop_goes_on hafter.sane hafter.doomed hafter.shut hloop)

theorem Shut.unreturned (h : Shut s) : ¬ ComesTo grpc .returned s := by
  intro hreturns
  have hsmaller (s : State) (label : Label) (t : State) (h : Shut s)
      (hgood : label.ofLoop = true ∧ label.starts = false)
      (hstep : (machine grpc).step s label = some t) : left t < left s := by
    have hleft := step_left h.sane h.shut hstep
    rw [hgood.1, hgood.2] at hleft
    simp only [Bool.toNat_true, Bool.toNat_false] at hleft
    omega
  obtain ⟨more, t, hrun, -, hstuck⟩ := Machine.exists_stuck (M := machine grpc) (I := Shut)
    (fun _ _ _ h _ hstep => h.after hstep) hsmaller h
  have hno : ¬ ∃ label u, label.ofLoop = true ∧ step grpc t label = some u := by
    rintro ⟨label, u, hloop, hstep⟩
    exact hstuck label u ⟨hloop, by cases label <;> simp_all [Label.ofLoop, Label.starts]⟩ hstep
  have hcrashed : t.loop = .crashed := (h.comesTo more t hrun).resolve_right hno
  have hreturned : t.loop = .returned := (hreturns more t hrun).resolve_right hno
  simp [hcrashed] at hreturned

private theorem request_log (m : MethodCall)
    (haccepts : s.queueShutdown = false ∧ grpc.requestRegisteredCall s.requests = true) :
    ∃ more, (serverMethodCallCqTag grpc m s).log = s.log ++ more ∧
      (∀ e ∈ more, refusedRequest e = none) ∧ .queueShutdown ∉ more := by
  refine ⟨_, rfl, ?_⟩
  by_cases hindex : m.methodIndex < m.service.methods.length <;>
    simp [haccepts.1, haccepts.2, hindex]

private theorem step_log {label : Label} (haccepts : Accepts grpc s label)
    (hstep : step grpc s label = some t) :
    ∃ more, t.log = s.log ++ more ∧ (∀ e ∈ more, refusedRequest e = none) ∧
      (.queueShutdown ∈ more → t.queueShutdown = true) ∧
      ((∀ e ∈ more, requested e = none) ∨
        s.queueShutdown = false ∧ .queueShutdown ∉ more) := by
  cases step_cases hstep with
  | registers service =>
    obtain ⟨answers, -, heq⟩ := registerService_eq grpc service s
    have hsilent : ∀ e ∈ registered service (List.range service.methods.length) answers,
        refusedRequest e = none ∧ e ≠ .queueShutdown ∧ requested e = none := by
      intro e he
      obtain ⟨i, -, answer, rfl⟩ := mem_registered he
      simp
    refine ⟨_, by simp [heq], fun e he => (hsilent e he).1, ?_,
      .inl fun e he => (hsilent e he).2.2⟩
    exact fun he => absurd rfl (hsilent _ he).2.1
  | runs order => exact ⟨[], by simp [run], by simp⟩
  | requests m rest hat =>
    have hopen := haccepts (by simp [makes, hat])
    obtain ⟨more, hlog, hasserts, hnot⟩ := request_log m hopen
    exact ⟨more, hlog, hasserts, fun he => absurd he hnot, .inr ⟨hopen.1, hnot⟩⟩
  | requested => exact ⟨[], by simp⟩
  | next index success ptr =>
    refine ⟨_, rfl, ?_⟩
    unfold beginComplete
    split <;> simp
  | finishes id tag success hat =>
    unfold finish endComplete
    split
    · next m =>
      have hopen := haccepts (by simp [makes, hat])
      obtain ⟨more, hlog, hasserts, hnot⟩ := request_log m hopen
      refine ⟨more ++ _, by simp only [hlog, List.append_assoc]; rfl, ?_, ?_,
        .inr ⟨hopen.1, ?_⟩⟩
      · simpa [or_imp, forall_and] using hasserts
      · simp [hnot]
      · simp [hnot]
    · exact ⟨_, rfl, by simp⟩
  | empties => exact ⟨[], by simp⟩
  | ignoresShutdown => exact ⟨[], by simp⟩
  | shuts => exact ⟨_, rfl, by simp⟩
  | shutsQueue => exact ⟨_, rfl, by simp⟩
  | starts tag =>
    refine ⟨_, rfl, ?_⟩
    split <;> simp

/-- What is known as long as the requests are clean. -/
structure InOrder (s : State) : Prop where
  sane : Sane s
  kept : Kept s
  noted : .queueShutdown ∈ s.log → s.queueShutdown = true
  clean : Clean s

theorem InOrder.after (h : InOrder s) {label : Label} (haccepts : Accepts grpc s label)
    (hstep : step grpc s label = some t) : InOrder t := by
  have hkept := step_kept h.sane h.kept haccepts hstep
  obtain ⟨more, hlog, hasserts, hqueue, hrequests⟩ := step_log haccepts hstep
  refine ⟨step_sane h.sane hstep, hkept, fun hmem => ?_, hkept.orderly, ?_, ?_⟩
  · rw [hlog] at hmem
    rcases List.mem_append.mp hmem with hold | hnew
    · exact step_shut (h.noted hold) hstep
    · exact hqueue hnew
  · rw [hlog]
    rcases hrequests with hquiet | ⟨hopen, hnot⟩
    · exact h.clean.requests.append fun e he _ hrequest => absurd (hquiet e he) hrequest
    · have hold : .queueShutdown ∉ s.log := fun hmem => by simp [h.noted hmem] at hopen
      intro before e after hsplit _ hmem
      have hall : .queueShutdown ∈ s.log ++ more := by simp [hsplit, hmem]
      simp [hold, hnot] at hall
  · rw [hlog, collect_append, h.clean.asserts, collect_eq_nil _ _ hasserts, List.append_nil]

end drain

end GrpcCbCore.Server.Serving
