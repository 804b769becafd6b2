import GrpcCbCore.Server.ServingRepeats
import GrpcCbCore.Server.ServingShutdown

/-! Where calls go, whatever is registered, again or late, refused or shut down: what is
called was registered, and a method that `Run` has found is lost by a refusal only. -/
namespace GrpcCbCore.Server.Serving
open GrpcCbCore.Library

@[simp] def refusedCall : Event → Option MethodCall
  | .requestRegisteredCall _ m _ false => some m
  | _ => none

/-- The law of `Matches`, but for the assert that fails where grpc refuses a request. -/
def Routed (before : List Event) (e : Event) : Prop :=
  e ≠ .fault .constructorCallOk → Matches before e

/-- What became of the method calls: outstanding, to be requested next, or refused. -/
def State.calls (s : State) : List MethodCall :=
  s.requestedCalls.map (·.2) ++ s.loop.pending [] ++ collect refusedCall s.log

structure Known (history : List Event) (m : MethodCall) : Prop where
  index : m.methodIndex < m.service.methods.length
  registered : .registerMethod m.service m.methodIndex
    (getMethodPayloadHandling m.service m.methodIndex) (some m.registeredMethod) ∈ history

/-- Every method call that the server has anywhere was registered, and comes back from the
request that was made for it. -/
structure Routes (s : State) : Prop where
  map : ∀ m ∈ requestMethodsCalls s.serviceMap, Known s.log m
  pending : ∀ m ∈ s.loop.pending [], Known s.log m
  held : ∀ r ∈ s.requestedCalls, Known s.log r.2 ∧
    .requestRegisteredCall r.1 r.2 r.2.payload true ∈ s.log
  routed : AtEach Routed s.log
  called : collect callMethod s.log = collect completedCall s.log

section routes

variable {grpc : Grpc} {s t : State}

theorem Known.more {history : List Event} {m : MethodCall} (h : Known history m)
    (more : List Event) : Known (history ++ more) m :=
  ⟨h.index, List.mem_append_left _ h.registered⟩

theorem Routes.quiet (h : Routes s) {more : List Event} (hlog : t.log = s.log ++ more)
    (hmore : ∀ e ∈ more, callMethod e = none ∧ completedCall e = none ∧
      ∀ before, Matches before e)
    (hmap : ∀ m ∈ requestMethodsCalls t.serviceMap, m ∈ requestMethodsCalls s.serviceMap)
    (hpending : ∀ m ∈ t.loop.pending [], Known s.log m)
    (hrequested : ∀ r ∈ t.requestedCalls, r ∈ s.requestedCalls) : Routes t := by
  refine ⟨fun m hm => ?_, fun m hm => ?_, fun r hr => ?_, ?_, ?_⟩
  · rw [hlog]
    exact (h.map m (hmap m hm)).more more
  · rw [hlog]
    exact (hpending m hm).more more
  · obtain ⟨hknown, hrequest⟩ := h.held r (hrequested r hr)
    rw [hlog]
    exact ⟨hknown.more more, List.mem_append_left _ hrequest⟩
  · rw [hlog]
    exact h.routed.append fun e he before _ => (hmore e he).2.2 before
  · rw [hlog, collect_append, collect_append, h.called,
      collect_eq_nil _ _ fun e he => (hmore e he).1,
      collect_eq_nil _ _ fun e he => (hmore e he).2.1]

private theorem request_events (m : MethodCall)
    (hindex : m.methodIndex < m.service.methods.length) :
    ∃ accepted, (serverMethodCallCqTag grpc m s).log = s.log ++
        ([.new s.made (.methodCall m), .requestRegisteredCall s.made m m.payload accepted] ++
          if accepted then [] else [.fault .constructorCallOk]) ∧
      (serverMethodCallCqTag grpc m s).outstanding =
        if accepted then s.outstanding ++ [.tag s.made (.methodCall m)] else s.outstanding :=
  ⟨!s.queueShutdown && grpc.requestRegisteredCall s.requests,
    by simp [serverMethodCallCqTag, hindex], rfl⟩

theorem Routes.request (h : Routes s) {m : MethodCall} (hknown : Known s.log m) {loop : Loop}
    (hpending : ∀ m ∈ loop.pending [], Known s.log m) :
    Routes { serverMethodCallCqTag grpc m s with loop } := by
  obtain ⟨accepted, hlog, houtstanding⟩ := @request_events grpc s m hknown.index
  have hpayload : m.payload = true ↔
      getMethodPayloadHandling m.service m.methodIndex = .readInitialByteBuffer := by
    simp [MethodCall.payload, getMethodPayloadHandling]
  refine ⟨fun m' hm' => ?_, fun m' hm' => ?_, fun r hr => ?_, ?_, ?_⟩
  · dsimp only
    rw [hlog]
    exact (h.map m' hm').more _
  · dsimp only
    rw [hlog]
    exact (hpending m' hm').more _
  · dsimp only
    rw [hlog]
    simp only [State.requestedCalls, houtstanding] at hr
    cases accepted with
    | false =>
      obtain ⟨hold, hrequest⟩ := h.held r hr
      exact ⟨hold.more _, List.mem_append_left _ hrequest⟩
    | true =>
      rw [if_pos rfl, List.filterMap_append, List.mem_append] at hr
      rcases hr with hr | hr
      · obtain ⟨hold, hrequest⟩ := h.held r hr
        exact ⟨hold.more _, List.mem_append_left _ hrequest⟩
      · obtain rfl : r = (s.made, m) := by simpa [Pointer.methodCall?] using hr
        exact ⟨hknown.more _, by simp⟩
  · dsimp only
    rw [hlog, ← List.append_assoc]
    have hnew : AtEach Routed (s.log ++ [.new s.made (.methodCall m)]) :=
      h.routed.snoc fun _ => trivial
    have hmatches : Routed (s.log ++ [.new s.made (.methodCall m)])
        (.requestRegisteredCall s.made m m.payload accepted) :=
      fun _ => ⟨rfl, _, List.mem_append_left _ hknown.registered, hpayload⟩
    have hrequest : AtEach Routed (s.log ++ [.new s.made (.methodCall m),
        .requestRegisteredCall s.made m m.payload accepted]) := by
      simpa using hnew.snoc hmatches
    cases accepted with
    | true => simpa using hrequest
    | false => exact hrequest.snoc fun hne => absurd rfl hne
  · dsimp only
    rw [hlog]
    cases accepted <;> simp [h.called]

theorem Routes.register (h : Routes s) (service : Service) :
    Routes (registerService grpc service s) := by
  obtain ⟨answers, hlength, heq⟩ := registerService_eq grpc service s
  have hcalls : collect registeredCall (registered service (List.range service.methods.length)
      answers) = requestServiceMethodsCalls ⟨service, answers⟩ := by
    rw [← hlength, List.range_eq_range']
    exact registered_calls service answers 0
  rw [heq]
  have hsame (n : Nat) : Routes { s with
      registrations := n
      log := s.log ++ registered service (List.range service.methods.length) answers } := by
    refine h.quiet rfl (fun e he => ?_) (fun m hm => hm) h.pending fun r hr => hr
    obtain ⟨i, hi, answer, rfl⟩ := mem_registered he
    exact ⟨rfl, rfl, fun _ => ⟨rfl, List.mem_range.mp hi⟩⟩
  refine { hsame (s.registrations + service.methods.length) with map := fun m hm => ?_ }
  obtain ⟨e, he, hm⟩ := List.mem_flatMap.mp hm
  rcases ServiceMap.mem_put.mp he with rfl | ⟨-, hold⟩
  · rw [← hcalls] at hm
    obtain ⟨event, hevent, hfound⟩ := List.mem_filterMap.mp hm
    obtain ⟨i, hi, answer, rfl⟩ := mem_registered hevent
    cases answer with
    | none => simp at hfound
    | some handle =>
      obtain rfl := Option.some.inj hfound
      exact ⟨List.mem_range.mp hi, List.mem_append_right _ hevent⟩
  · exact (h.map m (List.mem_flatMap.mpr ⟨e, hold, hm⟩)).more _

theorem Routes.next (h : Routes s) {index : Nat} {ptr : Pointer} (success : Bool)
    (hptr : s.outstanding[index]? = some ptr) :
    Routes { s with
      outstanding := s.outstanding.eraseIdx index
      loop := dispatch ptr success
      log := s.log ++ (.next ptr success :: beginComplete ptr success) } := by
  have hsubset (r : Nat × MethodCall)
      (hr : r ∈ (s.outstanding.eraseIdx index).filterMap Pointer.methodCall?) :
      r ∈ s.requestedCalls :=
    ((List.eraseIdx_sublist _ _).filterMap _).subset hr
  rcases ptr with _ | ⟨id, m | tag⟩
  case tag.methodCall =>
    obtain ⟨hknown, hrequest⟩ : Known s.log m ∧
        .requestRegisteredCall id m m.payload true ∈ s.log :=
      h.held (id, m) (List.mem_filterMap.mpr ⟨_, List.mem_of_getElem? hptr, rfl⟩)
    have hnext : AtEach Routed (s.log ++ [.next (.tag id (.methodCall m)) success]) :=
      h.routed.snoc fun _ => ⟨m.payload, hrequest⟩
    refine ⟨fun m' hm' => (h.map m' hm').more _, fun m' hm' => ?_, fun r hr => ?_, ?_, ?_⟩
    · obtain rfl : m' = m := by simpa [dispatch, Loop.pending] using hm'
      exact hknown.more _
    · obtain ⟨hold, hmade⟩ := h.held r (hsubset r hr)
      exact ⟨hold.more _, List.mem_append_left _ hmade⟩
    · cases success with
      | false => exact hnext
      | true =>
        have hcall : Routed (s.log ++ [.next (.tag id (.methodCall m)) true])
            (.callMethod id m.service m.methodIndex m.payload) :=
          fun _ => ⟨m.registeredMethod, List.mem_append_left _ hrequest⟩
        simpa [beginComplete] using hnext.snoc hcall
    · cases success <;> simp [beginComplete, h.called]
  all_goals
    refine h.quiet rfl ?_ (fun m hm => hm) (by simp [dispatch, Loop.pending]) hsubset
    simp [beginComplete, Matches]

theorem step_routes (h : Routes s) {label : Label} (hstep : step grpc s label = some t) :
    Routes t := by
  cases step_cases hstep with
  | registers service => exact h.register service
  | runs order hnew hopen horder =>
    refine h.quiet (List.append_nil _).symm (by simp) (fun m hm => hm) (fun m hm => ?_)
      fun r hr => hr
    exact h.map m ((horder.flatMap_right _).mem_iff.mp hm)
  | requests m rest hloop =>
    have hpending := h.pending
    rw [hloop] at hpending
    exact h.request (hpending m List.mem_cons_self)
      fun m' hm' => hpending m' (List.mem_cons_of_mem _ hm')
  | requested hloop =>
    exact h.quiet (List.append_nil _).symm (by simp) (fun m hm => hm) (by simp [Loop.pending])
      fun r hr => hr
  | next index success ptr hloop hptr => exact h.next success hptr
  | finishes id tag success hloop =>
    have hpending := h.pending
    rw [hloop] at hpending
    have hended : Routes { endComplete grpc tag s with loop := .waiting } := by
      cases tag with
      | methodCall m =>
        exact h.request (hpending m (by simp [Loop.pending])) (by simp [Loop.pending])
      | call tag =>
        exact h.quiet (List.append_nil _).symm (by simp) (fun m hm => hm)
          (by simp [Loop.pending]) fun r hr => hr
    exact hended.quiet rfl (by simp [Matches]) (fun m hm => hm) hended.pending fun r hr => hr
  | empties hloop =>
    exact h.quiet (List.append_nil _).symm (by simp) (fun m hm => hm) (by simp [Loop.pending])
      fun r hr => hr
  | ignoresShutdown => exact h
  | shuts =>
    refine h.quiet rfl (by simp [Matches]) (fun m hm => hm) h.pending ?_
    simp [State.requestedCalls, Pointer.methodCall?]
  | shutsQueue => exact h.quiet rfl (by simp [Matches]) (fun m hm => hm) h.pending fun r hr => hr
  | starts tag =>
    refine h.quiet rfl ?_ (fun m hm => hm) h.pending ?_
    · split <;> simp [Matches]
    · simp only [State.requestedCalls, newAndStart]
      split <;> simp [Pointer.methodCall?]

variable {requests : List MethodCall}

end routes

end GrpcCbCore.Server.Serving
