import GrpcCbCore.Server.ServingTags

/-! What `DoNextCompletion` dispatches: tags in good custody, unless the server has been
handed over as one, or grpc has refused a request. -/
namespace GrpcCbCore.Server.Serving
open GrpcCbCore.Library

@[simp] def nextPointer : Event → Option Pointer
  | .next ptr _ => some ptr
  | _ => none

/-- Each pointer that the queue holds, or that `Next` has returned, is a tag; each tag was
made, held and live when it was returned, and is deleted once, by the right one. -/
structure Owned (s : State) : Prop where
  custody : Custody.Orderly s.custody
  held : .server ∉ s.outstanding
  dispatched : .server ∉ collect nextPointer s.log

/-- A shutdown that goes through, of a server that is running. -/
def Shuts (s : State) (label : Label) : Prop :=
  label = .shutdown ∧ s.started = true ∧ s.shutdown = false

section dispatch

variable {grpc : Grpc} {s t : State}

/-- A request adds no pointer but a tag's, and dispatches nothing. -/
theorem request_owned (grpc : Grpc) (m : MethodCall) (hheld : .server ∉ s.outstanding) :
    .server ∉ (serverMethodCallCqTag grpc m s).outstanding ∧
    collect nextPointer (serverMethodCallCqTag grpc m s).log = collect nextPointer s.log := by
  simp only [serverMethodCallCqTag]
  constructor
  · split <;> simp [hheld]
  · split <;> split <;> simp

private theorem step_owned (hsane : Sane s) (hkept : Kept s) (h : Owned s) {label : Label}
    (haccepts : Accepts grpc s label) (hopen : ¬ Shuts s label)
    (hstep : step grpc s label = some t) : Owned t := by
  have hcustody := (step_kept hsane hkept haccepts hstep).orderly
  have hheld := h.held
  have hdispatched := h.dispatched
  cases step_cases hstep with
  | registers service =>
    obtain ⟨answers, -, heq⟩ := registerService_eq grpc service s
    have hsilent := registered_silent (f := nextPointer) (by simp) service
    refine ⟨hcustody, ?_, ?_⟩
    · simpa [heq] using hheld
    · simpa [heq, hsilent] using hdispatched
  | runs order => exact ⟨hcustody, hheld, hdispatched⟩
  | requests m rest =>
    obtain ⟨hrequest, hlog⟩ := request_owned grpc m hheld
    exact ⟨hcustody, hrequest, by simpa [hlog] using hdispatched⟩
  | requested => exact ⟨hcustody, hheld, hdispatched⟩
  | next index success ptr hloop hptr =>
    have hne : .server ≠ ptr := by
      rintro rfl
      exact hheld (List.mem_of_getElem? hptr)
    have hbegin : collect nextPointer (beginComplete ptr success) = [] := by
      unfold beginComplete
      split <;> rfl
    exact ⟨hcustody, fun hmem => hheld (List.mem_of_mem_eraseIdx hmem),
      by simp [hbegin, hdispatched, hne]⟩
  | finishes id tag success =>
    have hend : .server ∉ (endComplete grpc tag s).outstanding ∧
        collect nextPointer (endComplete grpc tag s).log = collect nextPointer s.log := by
      unfold endComplete
      split
      · exact request_owned grpc _ hheld
      · exact ⟨hheld, rfl⟩
    exact ⟨hcustody, hend.1, by simpa [finish, hend.2] using hdispatched⟩
  | empties => exact ⟨hcustody, hheld, hdispatched⟩
  | ignoresShutdown => exact h
  | shuts hstarted hnew => exact absurd ⟨rfl, hstarted, hnew⟩ hopen
  | shutsQueue => exact ⟨hcustody, hheld, by simpa using hdispatched⟩
  | starts tag =>
    refine ⟨hcustody, ?_, ?_⟩
    · simp only [newAndStart]
      split <;> simp [hheld]
    · simp only [newAndStart]
      split <;> simp [hdispatched]

private theorem step_disowned (hkept : Kept s) {label : Label}
    (hbad : ¬ (Accepts grpc s label ∧ ¬ Shuts s label)) (hstep : step grpc s label = some t) :
    ¬ Owned t := by
  intro howned
  by_cases haccepts : Accepts grpc s label
  · obtain ⟨rfl, hstarted, hopen⟩ : Shuts s label := by
      by_contra hshuts
      exact hbad ⟨haccepts, hshuts⟩
    cases step_cases hstep with
    | ignoresShutdown hshut => simp [hshut hstarted] at hopen
    | shuts => exact howned.held (by simp)
  · exact howned.custody.not_left (step_leaks hkept haccepts hstep)

end dispatch

/-- The exact condition under which every completion dispatched is that of a live tag:
the server does not go into its shutdown, and grpc accepts every request. -/
theorem dispatches_tags_iff {grpc : Grpc} {ls : List Label} {s : State}
    (hrun : (machine grpc).run {} ls = some s) :
    (machine grpc).Throughout Owned {} ls ↔
      (machine grpc).Along (fun s label => Accepts grpc s label ∧ ¬ Shuts s label) {} ls := by
  refine Machine.throughout_iff_along (I := fun s => Sane s ∧ Kept s ∧ Owned s)
    (fun s h => h.2.2) ?_ ?_ ⟨init_sane, init_kept, ?_⟩ hrun
  · rintro s label t ⟨hsane, hkept, howned⟩ ⟨haccepts, hopen⟩ hstep
    exact ⟨step_sane hsane hstep, step_kept hsane hkept haccepts hstep,
      step_owned hsane hkept howned haccepts hopen hstep⟩
  · rintro s label t ⟨-, hkept, -⟩ hbad hstep
    exact step_disowned hkept hbad hstep
  · exact ⟨init_kept.orderly, by simp, by simp⟩

/-- A service of two methods, the second of which streams from its client. -/
def echo : Service := ⟨0, [69], [⟨[117], false⟩, ⟨[115], true⟩]⟩

/-- The second method is not registered; the reply to a call of the first is refused. -/
def echoGrpc : Grpc := ⟨fun k => if k = 0 then some 7 else none, fun _ => true, fun _ => false⟩

def echoLabels : List Label :=
  [.registerService echo, .run [([69], ⟨echo, [some 7, none]⟩)], .request, .request,
    .next 0 true, .newAndStart (.serverReplierReply [1] true), .finish]

theorem dispatches_tags_iff_echo :
    ∃ s, (machine echoGrpc).run {} echoLabels = some s ∧
      (machine echoGrpc).Throughout Owned {} echoLabels := by
  have hrun : (machine echoGrpc).run {} echoLabels = some _ := rfl
  refine ⟨_, hrun, (dispatches_tags_iff hrun).mpr ?_⟩
  have hgood (s : State) (label : Label) (hqueue : s.queueShutdown = false)
      (hlabel : label ≠ .shutdown) : Accepts echoGrpc s label ∧ ¬ Shuts s label :=
    ⟨fun _ => ⟨hqueue, rfl⟩, fun h => hlabel h.1⟩
  rw [echoLabels, Machine.along_cons rfl, Machine.along_cons rfl, Machine.along_cons rfl,
    Machine.along_cons rfl, Machine.along_cons rfl, Machine.along_cons rfl,
    Machine.along_cons rfl]
  exact ⟨hgood _ _ rfl (by simp), hgood _ _ rfl (by simp), hgood _ _ rfl (by simp),
    hgood _ _ rfl (by simp), hgood _ _ rfl (by simp), hgood _ _ rfl (by simp),
    hgood _ _ rfl (by simp), Machine.along_nil _ _⟩

/-- A server with nothing registered, run and shut down. -/
def shutdownLabels : List Label := [.run [], .request, .shutdown, .shutdownQueue, .next 0 true]

theorem server_is_dispatched :
    ∃ s, (machine echoGrpc).run {} shutdownLabels = some s ∧
      collect nextPointer s.log = [.server] ∧ ¬ Owned s := by
  have hrun : (machine echoGrpc).run {} shutdownLabels = some _ := rfl
  exact ⟨_, hrun, rfl, fun h => h.dispatched (by decide)⟩

end GrpcCbCore.Server.Serving
