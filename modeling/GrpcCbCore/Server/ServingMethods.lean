import Mathlib.Data.List.Perm.Basic
import GrpcCbCore.Server.ServingDispatch

/-! Every registered method stays served. A method call is outstanding, or the thread of
`Run` is about to request it. -/
namespace GrpcCbCore.Server.Serving
open GrpcCbCore.Library

@[simp] def registeredCall : Event → Option MethodCall
  | .registerMethod service i _ (some registeredMethod) => some ⟨service, i, registeredMethod⟩
  | _ => none

@[simp] def callMethod : Event → Option (Nat × Service × Nat × Bool)
  | .callMethod id service methodIndex payload => some (id, service, methodIndex, payload)
  | _ => none

@[simp] def completedCall : Event → Option (Nat × Service × Nat × Bool)
  | .next (.tag id (.methodCall m)) true => some (id, m.service, m.methodIndex, m.payload)
  | _ => none

def Pointer.methodCall? : Pointer → Option (Nat × MethodCall)
  | .tag id (.methodCall m) => some (id, m)
  | _ => none

/-- The requests that are outstanding, by the tags that stand for them. -/
def State.requestedCalls (s : State) : List (Nat × MethodCall) :=
  s.outstanding.filterMap Pointer.methodCall?

/-- The method calls that the thread of `Run` is to request before its next `Next`. -/
def Loop.pending (serviceMap : ServiceMap) : Loop → List MethodCall
  | .outside => requestMethodsCalls serviceMap
  | .requesting rest => rest
  | .completing _ (.methodCall m) _ => [m]
  | _ => []

/-- A request is that of a registered handle, with a payload just when the registration has
chosen to read one; what comes back has been requested; `CallMethod` has the service, the
index and the payload of the request; and the asserts hold. -/
def Matches (before : List Event) : Event → Prop
  | .registerMethod service i handling _ =>
      handling = getMethodPayloadHandling service i ∧ i < service.methods.length
  | .requestRegisteredCall _ m payload _ =>
      payload = !m.service.isMethodClientStreaming m.methodIndex ∧
      ∃ handling,
        .registerMethod m.service m.methodIndex handling (some m.registeredMethod) ∈ before ∧
        (payload = true ↔ handling = .readInitialByteBuffer)
  | .next (.tag id (.methodCall m)) _ =>
      ∃ payload, .requestRegisteredCall id m payload true ∈ before
  | .callMethod id service methodIndex payload =>
      ∃ registeredMethod,
        .requestRegisteredCall id ⟨service, methodIndex, registeredMethod⟩ payload true ∈ before
  | .fault _ => False
  | _ => True

/-- Each registered method has one request outstanding whenever the thread is before `Next`,
and no other request is; each completion calls its method once. -/
structure Served (s : State) : Prop where
  outstanding : s.loop = .waiting →
    (s.requestedCalls.map (·.2)).Perm (collect registeredCall s.log)
  distinct : ((collect registeredCall s.log).map fun m => (m.service, m.methodIndex)).Nodup
  called : collect callMethod s.log = collect completedCall s.log
  matched : AtEach Matches s.log

/-- Services of new names are registered before `Run`; the server is not shut down. -/
def Undisturbed (s : State) (label : Label) : Prop :=
  ¬ Shuts s label ∧ ∀ service, label = .registerService service →
    s.started = false ∧ service.fullName ∉ s.serviceMap.map (·.1)

/-- What the steps of an undisturbed server keep. -/
structure Serves (s : State) : Prop where
  sane : Sane s
  running : s.shutdown = false
  calls : (s.requestedCalls.map (·.2) ++ s.loop.pending s.serviceMap).Perm
    (collect registeredCall s.log)
  distinct : ((collect registeredCall s.log).map fun m => (m.service, m.methodIndex)).Nodup
  names : s.started = false → ∀ m ∈ collect registeredCall s.log,
    m.service.fullName ∈ s.serviceMap.map (·.1)
  called : collect callMethod s.log = collect completedCall s.log
  held : ∀ r ∈ s.requestedCalls, .requestRegisteredCall r.1 r.2 r.2.payload true ∈ s.log
  matched : AtEach Matches s.log

section registering

theorem ServiceMap.put_new {name : StdString} {serviceMap : ServiceMap}
    (hnew : name ∉ serviceMap.map (·.1)) (rs : RegisteredService) :
    serviceMap.put name rs = serviceMap ++ [(name, rs)] := by
  have hnone : serviceMap.any (·.1 = name) = false := by
    simp only [List.any_eq_false, decide_eq_true_eq]
    exact fun e he heq => hnew (heq ▸ List.mem_map_of_mem he)
  simp [put, hnone]

theorem registered_calls (service : Service) (answers : List (Option RegisteredMethod)) (k : Nat) :
    collect registeredCall (registered service (List.range' k answers.length) answers) =
      (answers.zipIdx k).filterMap fun r => r.1.map fun registeredMethod =>
        ⟨service, r.2, registeredMethod⟩ := by
  induction answers generalizing k with
  | nil => rfl
  | cons answer answers ih =>
    rw [List.length_cons, List.range'_succ, List.zipIdx_cons]
    have htail := ih (k + 1)
    cases answer <;> simpa [registered] using htail

private theorem requestServiceMethodsCalls_nodup (rs : RegisteredService) :
    ((requestServiceMethodsCalls rs).map fun m => (m.service, m.methodIndex)).Nodup := by
  have hindices : (rs.registeredMethods.zipIdx.map (·.2)).Nodup := by
    rw [List.zipIdx_map_snd]
    exact List.nodup_range'
  rw [requestServiceMethodsCalls, List.map_filterMap]
  refine List.Pairwise.filterMap _ ?_ (List.pairwise_map.mp hindices)
  intro r r' hne method hmethod method' hmethod'
  obtain ⟨m, hm, rfl⟩ := Option.map_eq_some_iff.mp hmethod
  obtain ⟨m', hm', rfl⟩ := Option.map_eq_some_iff.mp hmethod'
  obtain ⟨handle, -, rfl⟩ := Option.map_eq_some_iff.mp hm
  obtain ⟨handle', -, rfl⟩ := Option.map_eq_some_iff.mp hm'
  simpa using hne

theorem requestServiceMethodsCalls_service {rs : RegisteredService} {m : MethodCall}
    (hm : m ∈ requestServiceMethodsCalls rs) : m.service = rs.service := by
  obtain ⟨r, -, hr⟩ := List.mem_filterMap.mp hm
  obtain ⟨handle, -, rfl⟩ := Option.map_eq_some_iff.mp hr
  rfl

end registering

section steps

variable {grpc : Grpc} {s t : State}

def Quiet (e : Event) : Prop :=
  registeredCall e = none ∧ callMethod e = none ∧ completedCall e = none ∧
    ∀ before, Matches before e

theorem Serves.quiet (h : Serves s) (hsane : Sane t) (hrunning : t.shutdown = false)
    {more : List Event} (hlog : t.log = s.log ++ more) (hmore : ∀ e ∈ more, Quiet e)
    (hrequested : t.requestedCalls = s.requestedCalls)
    (hpending : (t.loop.pending t.serviceMap).Perm (s.loop.pending s.serviceMap))
    (hnames : t.started = false → s.started = false ∧ t.serviceMap = s.serviceMap) :
    Serves t := by
  have hregistered : collect registeredCall t.log = collect registeredCall s.log := by
    rw [hlog, collect_append, collect_eq_nil _ _ fun e he => (hmore e he).1,
      List.append_nil]
  refine ⟨hsane, hrunning, ?_, hregistered ▸ h.distinct, fun hnew m hm => ?_, ?_, ?_, ?_⟩
  · rw [hrequested, hregistered]
    exact (hpending.append_left _).trans h.calls
  · obtain ⟨hold, hmap⟩ := hnames hnew
    rw [hregistered] at hm
    exact hmap ▸ h.names hold m hm
  · rw [hlog, collect_append, collect_append, h.called,
      collect_eq_nil _ _ fun e he => (hmore e he).2.1,
      collect_eq_nil _ _ fun e he => (hmore e he).2.2.1]
  · intro r hr
    rw [hlog]
    exact List.mem_append_left _ (h.held r (hrequested ▸ hr))
  · rw [hlog]
    exact h.matched.append fun e he before => (hmore e he).2.2.2 before

theorem Serves.queue_open (h : Serves s) : s.queueShutdown = false := by
  by_contra hshut
  have hdown : s.shutdown = true := h.sane.queue (by simpa using hshut)
  simp [h.running] at hdown

/-- A method call that is to be requested has been registered, with the payload handling
that goes with it. -/
theorem Serves.registration (h : Serves s) {m : MethodCall}
    (hm : m ∈ s.loop.pending s.serviceMap) :
    m.methodIndex < m.service.methods.length ∧
    .registerMethod m.service m.methodIndex (getMethodPayloadHandling m.service m.methodIndex)
      (some m.registeredMethod) ∈ s.log := by
  have hregistered : m ∈ collect registeredCall s.log :=
    h.calls.mem_iff.mp (List.mem_append_right _ hm)
  obtain ⟨e, he, heq⟩ := List.mem_filterMap.mp hregistered
  unfold registeredCall at heq
  split at heq
  · next service i handling registeredMethod =>
    obtain rfl := Option.some.inj heq
    obtain ⟨before, after, hsplit⟩ := List.append_of_mem he
    obtain ⟨rfl, hindex⟩ := h.matched _ _ _ hsplit
    exact ⟨hindex, he⟩
  · cases heq

theorem Serves.request (h : Serves s) {m : MethodCall} {loop : Loop}
    (hgrpc : grpc.requestRegisteredCall s.requests = true)
    (hpending : s.loop.pending s.serviceMap = m :: loop.pending s.serviceMap)
    (hsane : Sane { serverMethodCallCqTag grpc m s with loop }) (hstarted : s.started = true) :
    Serves { serverMethodCallCqTag grpc m s with loop } := by
  obtain ⟨hindex, hregistration⟩ := h.registration (hpending ▸ List.mem_cons_self)
  have hlog : (serverMethodCallCqTag grpc m s).log = s.log ++
      [.new s.made (.methodCall m), .requestRegisteredCall s.made m m.payload true] := by
    simp [serverMethodCallCqTag, h.queue_open, hgrpc, hindex]
  have houtstanding : (serverMethodCallCqTag grpc m s).outstanding =
      s.outstanding ++ [.tag s.made (.methodCall m)] := by
    simp [serverMethodCallCqTag, h.queue_open, hgrpc]
  have hmap : (serverMethodCallCqTag grpc m s).serviceMap = s.serviceMap := rfl
  have hpayload : m.payload = true ↔
      getMethodPayloadHandling m.service m.methodIndex = .readInitialByteBuffer := by
    simp [MethodCall.payload, getMethodPayloadHandling]
  refine ⟨hsane, h.running, ?_, ?_, fun hnew => ?_, ?_, fun r hr => ?_, ?_⟩
  · have hcalls := h.calls
    rw [hpending] at hcalls
    simpa [State.requestedCalls, houtstanding, hlog, Pointer.methodCall?, hmap] using hcalls
  · simpa [hlog] using h.distinct
  · simp [serverMethodCallCqTag, hstarted] at hnew
  · simpa [hlog] using h.called
  · simp only [State.requestedCalls, houtstanding, List.filterMap_append, List.mem_append] at hr
    rcases hr with hold | hnew
    · simp [hlog, h.held r hold]
    · obtain rfl : r = (s.made, m) := by simpa [Pointer.methodCall?] using hnew
      simp [hlog]
  · have hnew : AtEach Matches (s.log ++ [.new s.made (.methodCall m)]) :=
      h.matched.snoc trivial
    have hrequest : Matches (s.log ++ [.new s.made (.methodCall m)])
        (.requestRegisteredCall s.made m m.payload true) :=
      ⟨rfl, _, List.mem_append_left _ hregistration, hpayload⟩
    simpa [hlog] using hnew.snoc hrequest

theorem Serves.register (h : Serves s) {service : Service} (hnew : s.started = false)
    (hname : service.fullName ∉ s.serviceMap.map (·.1))
    (hsane : Sane (registerService grpc service s)) : Serves (registerService grpc service s) := by
  obtain ⟨answers, hlength, heq⟩ := registerService_eq grpc service s
  have hcalls : collect registeredCall (registered service (List.range service.methods.length)
      answers) = requestServiceMethodsCalls ⟨service, answers⟩ := by
    rw [← hlength, List.range_eq_range']
    exact registered_calls service answers 0
  have hlog : (registerService grpc service s).log = s.log ++
      registered service (List.range service.methods.length) answers := by
    simp [heq]
  have hmap : (registerService grpc service s).serviceMap =
      s.serviceMap ++ [(service.fullName, ⟨service, answers⟩)] := by
    simp [heq, ServiceMap.put_new hname]
  have hloop : s.loop = .outside := h.sane.outside.mp hnew
  have hregistered : collect registeredCall (registerService grpc service s).log =
      collect registeredCall s.log ++ requestServiceMethodsCalls ⟨service, answers⟩ := by
    rw [hlog, collect_append, hcalls]
  have hsame : (registerService grpc service s).requestedCalls = s.requestedCalls := by
    simp [State.requestedCalls, heq]
  refine ⟨hsane, by simpa [heq] using h.running, ?_, ?_, fun _ m hm => ?_, ?_,
    fun r hr => ?_, ?_⟩
  · have hpending : (registerService grpc service s).loop.pending
        (registerService grpc service s).serviceMap =
        s.loop.pending s.serviceMap ++ requestServiceMethodsCalls ⟨service, answers⟩ := by
      rw [hmap]
      simp [heq, hloop, Loop.pending, requestMethodsCalls]
    rw [hsame, hpending, hregistered, ← List.append_assoc]
    exact h.calls.append_right _
  · rw [hregistered, List.map_append, List.nodup_append]
    refine ⟨h.distinct, requestServiceMethodsCalls_nodup _, ?_⟩
    rintro method hold method' hnewMethod rfl
    obtain ⟨m, hm, rfl⟩ := List.mem_map.mp hold
    obtain ⟨m', hm', heq'⟩ := List.mem_map.mp hnewMethod
    have hservice : m'.service = service := requestServiceMethodsCalls_service hm'
    have hsameService : m.service = service := by
      rw [← hservice]
      exact (congrArg Prod.fst heq').symm
    exact hname (hsameService ▸ h.names hnew m hm)
  · rw [hregistered] at hm
    rw [hmap, List.map_append, List.mem_append]
    rcases List.mem_append.mp hm with hold | hm
    · exact .inl (h.names hnew m hold)
    · simp [requestServiceMethodsCalls_service hm]
  · have hcall := registered_silent (f := callMethod) (by simp) service
    have hcompleted := registered_silent (f := completedCall) (by simp) service
    rw [hlog, collect_append, collect_append, hcall, hcompleted, h.called]
  · rw [hlog]
    exact List.mem_append_left _ (h.held r (hsame ▸ hr))
  · rw [hlog]
    refine h.matched.append fun e he before => ?_
    obtain ⟨i, hi, answer, rfl⟩ := mem_registered he
    exact ⟨rfl, List.mem_range.mp hi⟩

theorem Serves.next_call (h : Serves s) {index id : Nat} {m : MethodCall} {success : Bool}
    (hloop : s.loop = .waiting) (hptr : s.outstanding[index]? = some (.tag id (.methodCall m)))
    (ht : t = { s with
      outstanding := s.outstanding.eraseIdx index
      loop := dispatch (.tag id (.methodCall m)) success
      log := s.log ++ (.next (.tag id (.methodCall m)) success ::
        beginComplete (.tag id (.methodCall m)) success) })
    (hsane : Sane t) : Serves t := by
  obtain ⟨before, after, hsplit, herase⟩ := exists_eraseIdx hptr
  have hrequested : s.requestedCalls = before.filterMap Pointer.methodCall? ++
      (id, m) :: after.filterMap Pointer.methodCall? := by
    simp [State.requestedCalls, hsplit, Pointer.methodCall?]
  have hleft : t.requestedCalls = before.filterMap Pointer.methodCall? ++
      after.filterMap Pointer.methodCall? := by
    simp only [State.requestedCalls, ht, herase, List.filterMap_append]
  have hrequest : .requestRegisteredCall id m m.payload true ∈ s.log :=
    h.held (id, m) (by simp [hrequested])
  have hregistered : collect registeredCall t.log = collect registeredCall s.log := by
    cases success <;> simp [ht, beginComplete]
  refine ⟨hsane, by rw [ht]; exact h.running, ?_, hregistered ▸ h.distinct, fun hnew => ?_, ?_,
    fun r hr => ?_, ?_⟩
  · have hcalls := h.calls
    have hwaiting : s.loop.pending s.serviceMap = [] := by rw [hloop]; rfl
    have hpending : t.loop.pending t.serviceMap = [m] := by rw [ht]; rfl
    rw [hwaiting, List.append_nil, hrequested, List.map_append, List.map_cons] at hcalls
    rw [hregistered, hleft, hpending, List.map_append]
    exact (List.perm_append_singleton _ _).trans (List.perm_middle.symm.trans hcalls)
  · have houtside : t.loop = .outside := hsane.outside.mp hnew
    simp [ht] at houtside
  · cases success <;> simp [ht, beginComplete, h.called]
  · have hold : r ∈ s.requestedCalls := by
      rw [hleft] at hr
      rw [hrequested]
      simp only [List.mem_append, List.mem_cons] at hr ⊢
      tauto
    rw [ht]
    exact List.mem_append_left _ (h.held r hold)
  · have hnext : AtEach Matches (s.log ++ [.next (.tag id (.methodCall m)) success]) :=
      h.matched.snoc ⟨m.payload, hrequest⟩
    have hcall : Matches (s.log ++ [.next (.tag id (.methodCall m)) success])
        (.callMethod id m.service m.methodIndex m.payload) :=
      ⟨m.registeredMethod, List.mem_append_left _ hrequest⟩
    rw [ht]
    cases success with
    | false => exact hnext
    | true => simpa [beginComplete] using hnext.snoc hcall

theorem Serves.next_quiet (h : Serves s) {index : Nat} {ptr : Pointer} {success : Bool}
    (hloop : s.loop = .waiting) (hptr : s.outstanding[index]? = some ptr)
    (hother : ptr.methodCall? = none)
    (ht : t = { s with
      outstanding := s.outstanding.eraseIdx index
      loop := dispatch ptr success
      log := s.log ++ (.next ptr success :: beginComplete ptr success) })
    (hsane : Sane t) : Serves t := by
  obtain ⟨before, after, hsplit, herase⟩ := exists_eraseIdx hptr
  have hrequested : t.requestedCalls = s.requestedCalls := by
    simp only [State.requestedCalls, ht, herase]
    rw [hsplit, List.filterMap_append, List.filterMap_append, List.filterMap_cons_none hother]
  have hpending : t.loop.pending t.serviceMap = s.loop.pending s.serviceMap := by
    rw [ht, hloop]
    rcases ptr with _ | ⟨id, m | tag⟩
    · rfl
    · cases hother
    · rfl
  refine h.quiet hsane (by rw [ht]; exact h.running) (by rw [ht]) ?_ hrequested
    (.of_eq hpending) fun hnew => ?_
  · rcases ptr with _ | ⟨id, m | tag⟩
    · simp [beginComplete, Quiet, Matches]
    · cases hother
    · simp [beginComplete, Quiet, Matches]
  · have houtside : t.loop = .outside := hsane.outside.mp hnew
    simp [ht] at houtside

theorem Serves.started (h : Serves s) (hloop : s.loop ≠ .outside) : s.started = true := by
  by_contra hnew
  exact hloop (h.sane.outside.mp (by simpa using hnew))

theorem Serves.finish (hgrpc : ∀ k, grpc.requestRegisteredCall k = true) (h : Serves s)
    {id : Nat} {tag : Tag} {success : Bool} (hloop : s.loop = .completing id tag success)
    (hsane : Sane (finish grpc id tag success s)) : Serves (finish grpc id tag success s) := by
  have hstarted : s.started = true := h.started (by simp [hloop])
  have hmore : ∀ e ∈ ([.doComplete (.tag id tag) success, .delete (.tag id tag)] : List Event),
      Quiet e := by
    simp [Quiet, Matches]
  cases tag with
  | methodCall m =>
    have hrequest : Serves { serverMethodCallCqTag grpc m s with loop := .waiting } :=
      h.request (hgrpc _) (by rw [hloop]; rfl)
        ⟨hsane.outside, hsane.shutdown, hsane.queue⟩ hstarted
    exact hrequest.quiet hsane hrequest.running rfl hmore rfl (.refl _) fun hnew => ⟨hnew, rfl⟩
  | call tag =>
    exact h.quiet hsane h.running rfl hmore rfl (by rw [hloop]; exact .refl _)
      fun hnew => ⟨hnew, rfl⟩

private theorem step_serves (hgrpc : ∀ k, grpc.requestRegisteredCall k = true) (h : Serves s)
    {label : Label} (hcalm : Undisturbed s label) (hstep : step grpc s label = some t) :
    Serves t := by
  have hsane := step_sane h.sane hstep
  have hrunning := h.running
  cases step_cases hstep with
  | registers service =>
    obtain ⟨hnew, hname⟩ := hcalm.2 service rfl
    exact h.register hnew hname hsane
  | runs order hnew hopen horder =>
    have hloop : s.loop = .outside := h.sane.outside.mp hnew
    have hpending : (requestMethodsCalls order).Perm (s.loop.pending s.serviceMap) := by
      rw [hloop]
      exact horder.flatMap_right _
    exact h.quiet hsane hrunning (List.append_nil _).symm (by simp) rfl hpending
      fun hnot => by cases hnot
  | requests m rest hloop =>
    refine h.request (hgrpc _) ?_ hsane (h.started (by simp [hloop]))
    rw [hloop]
    rfl
  | requested hloop =>
    refine h.quiet hsane hrunning (List.append_nil _).symm (by simp) rfl ?_
      fun hnew => ⟨hnew, rfl⟩
    rw [hloop]
    exact .refl _
  | next index success ptr hloop hptr =>
    rcases ptr with _ | ⟨id, m | tag⟩
    · exact h.next_quiet hloop hptr rfl rfl hsane
    · exact h.next_call hloop hptr rfl hsane
    · exact h.next_quiet hloop hptr rfl rfl hsane
  | finishes id tag success hloop => exact h.finish hgrpc hloop hsane
  | empties hloop hshut => simp [h.queue_open] at hshut
  | ignoresShutdown => exact h
  | shuts hstarted hopen => exact absurd ⟨rfl, hstarted, hopen⟩ hcalm.1
  | shutsQueue hshut => simp [hrunning] at hshut
  | starts tag =>
    refine h.quiet hsane hrunning rfl ?_ ?_ (.refl _) fun hnew => ⟨hnew, rfl⟩
    · split <;> simp [Quiet, Matches]
    · simp only [State.requestedCalls, newAndStart]
      split <;> simp [Pointer.methodCall?]

theorem Serves.served (h : Serves s) : Served s where
  outstanding := fun hloop => by simpa [hloop, Loop.pending] using h.calls
  distinct := h.distinct
  called := h.called
  matched := h.matched

end steps

/-- A server that is run once services of different names are registered serves each of
their methods until it is shut down. -/
theorem methods_stay_served {grpc : Grpc} (hgrpc : ∀ k, grpc.requestRegisteredCall k = true)
    {ls : List Label} {s : State} (halong : (machine grpc).Along Undisturbed {} ls)
    (hrun : (machine grpc).run {} ls = some s) : Served s := by
  have hinit : Serves {} :=
    ⟨init_sane, rfl, .refl _, List.nodup_nil, by simp, rfl, by simp [State.requestedCalls],
      AtEach.nil⟩
  have hserves : Serves s := Machine.invariant_along (I := Serves)
    (fun _ _ _ h hcalm hstep => step_serves hgrpc h hcalm hstep) hinit halong hrun
  exact hserves.served

theorem methods_stay_served_echo :
    ∃ s, (machine echoGrpc).run {} echoLabels = some s ∧ s.loop = .waiting ∧ Served s := by
  have hrun : (machine echoGrpc).run {} echoLabels = some _ := rfl
  refine ⟨_, hrun, rfl, methods_stay_served (fun _ => rfl) ?_ hrun⟩
  have hregister : Undisturbed {} (.registerService echo) :=
    ⟨by simp [Shuts], by simp⟩
  have hcalm (s : State) (label : Label) (hlabel : label ≠ .shutdown)
      (hother : ∀ service, label ≠ .registerService service) : Undisturbed s label :=
    ⟨fun h => hlabel h.1, fun service heq => absurd heq (hother service)⟩
  rw [echoLabels, Machine.along_cons rfl, Machine.along_cons rfl, Machine.along_cons rfl,
    Machine.along_cons rfl, Machine.along_cons rfl, Machine.along_cons rfl,
    Machine.along_cons rfl]
  exact ⟨hregister, hcalm _ _ (by simp) (by simp), hcalm _ _ (by simp) (by simp),
    hcalm _ _ (by simp) (by simp), hcalm _ _ (by simp) (by simp), hcalm _ _ (by simp) (by simp),
    hcalm _ _ (by simp) (by simp), Machine.along_nil _ _⟩

end GrpcCbCore.Server.Serving
