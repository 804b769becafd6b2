import GrpcCbCore.Server.ServingRouting
import GrpcCbCore.System.Unary

/-! Unary calls through a `Server`, whatever it registers and whenever: `Run` calls
`CallMethod` for a request of a client, and what is replied there the client hears. -/
namespace GrpcCbCore.System.Rpc
open GrpcCbCore.Library
open Server.Serving (MethodCall Known NameTable registeredCall callMethod)

/-- A call of `CallMethod`: the tag and the method call that it comes from, which request of
the client it is for, and what `payload_ptr_` holds. -/
structure Served where
  caller : Nat
  tag : Nat
  method : MethodCall
  payload : CodRecvMsg

structure State where
  stub : Client.ServiceStub.Run.Stub
  server : Server.Serving.State
  repliers : Nat → Server.ReplierImpl.World
  served : List Served := []

/-- `callMethod` is a method call that comes back from grpc with the request of `caller`. -/
inductive Label where
  | client (label : Client.ServiceStub.Run.Label)
  | server (label : Server.Serving.Label)
  | callMethod (index caller : Nat) (payload : CodRecvMsg)
  | reply (caller : Nat) (label : Server.ReplierImpl.Label)

/-- The method call that comes back with success, and its tag. -/
def brought (s : Server.Serving.State) : Server.Serving.Label → Option (Nat × MethodCall)
  | .next index true => s.outstanding[index]?.bind Server.Serving.Pointer.methodCall?
  | _ => none

section

variable (client : Nat → Bool) (grpc : Server.Serving.Grpc) (replies : Nat → Nat → Bool)

/-- The replier of a call is made in `CallMethod`. -/
def step (s : State) : Label → Option State
  | .client label =>
      (Client.ServiceStub.Run.step client s.stub label).map fun stub => { s with stub }
  | .server label =>
      match brought s.server label with
      | none => (Server.Serving.step grpc s.server label).map fun server => { s with server }
      | some _ => none
  | .callMethod index caller payload =>
      match brought s.server (.next index true) with
      | none => none
      | some (tag, method) =>
          (Server.Serving.step grpc s.server (.next index true)).map fun server =>
            { s with server, served := s.served ++ [⟨caller, tag, method, payload⟩] }
  | .reply caller label =>
      if caller ∈ s.served.map Served.caller then
        (Server.ReplierImpl.step (replies caller) (s.repliers caller) label).map fun w =>
          { s with repliers := Function.update s.repliers caller w }
      else none

def machine : Machine State Label where
  step := step client grpc replies

end

def initial (n : Nat) (threads : Nat → Nat) : State where
  stub := Client.ServiceStub.Run.initial n
  server := {}
  repliers id := Server.ReplierImpl.initial (threads id)

/-- A request that grpc brings to a method call: made and not brought before, for the method
of this name, which was registered with the handle of the method call; its bytes, if the
method call asks for them. -/
structure Incoming (method : Nat → StdString) (s : State) (caller : Nat) (payload : CodRecvMsg)
    (m : MethodCall) : Prop where
  new : caller ∉ s.served.map Served.caller
  made : ∃ r, s.stub.asked[caller]? = some r ∧
    (m.payload = true → CarriesMessage r.tag.grpcOps payload)
  named : ∃ m' ∈ collect registeredCall s.server.log,
    m'.registeredMethod = m.registeredMethod ∧ m'.name? = some (method caller)

/-- What grpc does: the request of `method k` for each `k`, and the replies, arrive as they
were sent, or with an error of its own. -/
def Carried (own : Status → Prop) (method : Nat → StdString) (s : State) : Label → Prop
  | .client (.next _ id true received) =>
      (own received.status ∧ received.status.ok = false) ∨
        Unary.Replied (s.repliers id) received
  | .callMethod index caller payload => ∀ tag m,
      brought s.server (.next index true) = some (tag, m) → Incoming method s caller payload m
  | _ => True

section parts

variable {client : Nat → Bool} {grpc : Server.Serving.Grpc} {replies : Nat → Nat → Bool}
  {s t : State} {label : Label}

inductive Steps (client : Nat → Bool) (grpc : Server.Serving.Grpc) (replies : Nat → Nat → Bool)
    (s : State) : Label → State → Prop
  | client {label : Client.ServiceStub.Run.Label} {stub : Client.ServiceStub.Run.Stub}
      (hstep : Client.ServiceStub.Run.step client s.stub label = some stub) :
      Steps client grpc replies s (.client label) { s with stub }
  | server {label : Server.Serving.Label} {server : Server.Serving.State}
      (hnone : brought s.server label = none)
      (hstep : Server.Serving.step grpc s.server label = some server) :
      Steps client grpc replies s (.server label) { s with server }
  | callMethod {index caller tag : Nat} {payload : CodRecvMsg} {m : MethodCall}
      {server : Server.Serving.State}
      (hbrought : brought s.server (.next index true) = some (tag, m))
      (hstep : Server.Serving.step grpc s.server (.next index true) = some server) :
      Steps client grpc replies s (.callMethod index caller payload)
        { s with server, served := s.served ++ [⟨caller, tag, m, payload⟩] }
  | reply {caller : Nat} {label : Server.ReplierImpl.Label} {w : Server.ReplierImpl.World}
      (hserved : caller ∈ s.served.map Served.caller)
      (hstep : Server.ReplierImpl.step (replies caller) (s.repliers caller) label = some w) :
      Steps client grpc replies s (.reply caller label)
        { s with repliers := Function.update s.repliers caller w }

private theorem step_cases (hstep : step client grpc replies s label = some t) :
    Steps client grpc replies s label t := by
  cases label with
  | client label =>
    obtain ⟨stub, hstub, rfl⟩ := Option.map_eq_some_iff.mp hstep
    exact .client hstub
  | server label =>
    simp only [step] at hstep
    split at hstep
    · next hnone =>
      obtain ⟨server, hserver, rfl⟩ := Option.map_eq_some_iff.mp hstep
      exact .server hnone hserver
    · cases hstep
  | callMethod index caller payload =>
    simp only [step] at hstep
    split at hstep
    · cases hstep
    · next hbrought =>
      obtain ⟨server, hserver, rfl⟩ := Option.map_eq_some_iff.mp hstep
      exact .callMethod hbrought hserver
  | reply caller label =>
    simp only [step, Option.ite_none_right_eq_some] at hstep
    obtain ⟨hserved, hstep⟩ := hstep
    obtain ⟨w, hw, rfl⟩ := Option.map_eq_some_iff.mp hstep
    exact .reply hserved hw

end parts

private theorem request_calls (grpc : Server.Serving.Grpc) (m : MethodCall)
    (s : Server.Serving.State) :
    ∃ more, (Server.Serving.serverMethodCallCqTag grpc m s).log = s.log ++ more ∧
      collect callMethod more = [] := by
  refine ⟨_, rfl, ?_⟩
  by_cases hindex : m.methodIndex < m.service.methods.length <;>
    cases s.queueShutdown <;> cases hgrpc : grpc.requestRegisteredCall s.requests <;>
      simp [hindex]

private theorem step_calls {grpc : Server.Serving.Grpc} {s t : Server.Serving.State}
    {label : Server.Serving.Label} (hstep : Server.Serving.step grpc s label = some t) :
    ∃ more, t.log = s.log ++ more ∧ collect callMethod more = (brought s label).toList.map
      fun r => (r.1, r.2.service, r.2.methodIndex, r.2.payload) := by
  cases Server.Serving.step_cases hstep with
  | registers service =>
    obtain ⟨answers, -, heq⟩ := Server.Serving.registerService_eq grpc service s
    exact ⟨_, by rw [heq],
      Server.Serving.registered_silent (fun _ _ _ _ => rfl) service _ answers⟩
  | runs => exact ⟨[], (List.append_nil _).symm, rfl⟩
  | requests m rest =>
    obtain ⟨more, hlog, hcalls⟩ := request_calls grpc m s
    exact ⟨more, hlog, hcalls⟩
  | requested => exact ⟨[], (List.append_nil _).symm, rfl⟩
  | next index success ptr hloop hptr =>
    refine ⟨_, rfl, ?_⟩
    rcases ptr with _ | ⟨id, m | tag⟩ <;> cases success <;>
      simp [brought, hptr, Server.Serving.beginComplete, Server.Serving.Pointer.methodCall?]
  | finishes id tag success =>
    obtain ⟨more, hlog, hcalls⟩ : ∃ more,
        (Server.Serving.endComplete grpc tag s).log = s.log ++ more ∧
          collect callMethod more = [] := by
      cases tag with
      | methodCall m => exact request_calls grpc m s
      | call tag => exact ⟨[], (List.append_nil _).symm, rfl⟩
    refine ⟨more ++ [.doComplete (.tag id tag) success, .delete (.tag id tag)], ?_, ?_⟩
    · simp [Server.Serving.finish, hlog]
    · simp [hcalls, brought]
  | empties => exact ⟨[], (List.append_nil _).symm, rfl⟩
  | ignoresShutdown => exact ⟨[], (List.append_nil _).symm, rfl⟩
  | shuts => exact ⟨_, rfl, rfl⟩
  | shutsQueue => exact ⟨_, rfl, rfl⟩
  | starts tag =>
    refine ⟨_, rfl, ?_⟩
    split <;> rfl

private theorem step_asked {client : Nat → Bool} {s t : Client.ServiceStub.Run.Stub}
    {label : Client.ServiceStub.Run.Label}
    (hstep : Client.ServiceStub.Run.step client s label = some t) : s.asked <+: t.asked := by
  cases Client.ServiceStub.Run.step_cases hstep with
  | asyncRequest r => exact List.prefix_append _ _
  | _ => exact List.prefix_rfl

/-- A call of `CallMethod` that is for a request of the client, and for its method. -/
structure Right (method : Nat → StdString) (asked : List Client.ServiceStub.Run.Request)
    (history : List Server.Serving.Event) (e : Served) : Prop where
  known : Known history e.method
  named : ∃ m ∈ collect registeredCall history,
    m.registeredMethod = e.method.registeredMethod ∧ m.name? = some (method e.caller)
  made : ∃ r, asked[e.caller]? = some r ∧
    (e.method.payload = true → CarriesMessage r.tag.grpcOps e.payload)

/-- Each call of `CallMethod` is for a request of its own. -/
structure Serves (method : Nat → StdString) (s : State) : Prop where
  routes : Server.Serving.Routes s.server
  calls : collect callMethod s.server.log = s.served.map fun e =>
    (e.tag, e.method.service, e.method.methodIndex, e.method.payload)
  once : (s.served.map Served.caller).Nodup
  right : ∀ e ∈ s.served, Right method s.stub.asked s.server.log e

section serves

variable {own : Status → Prop} {method : Nat → StdString} {client : Nat → Bool}
  {grpc : Server.Serving.Grpc} {replies : Nat → Nat → Bool} {s t : State} {label : Label}

theorem Right.later {asked asked' : List Client.ServiceStub.Run.Request}
    {history : List Server.Serving.Event} {e : Served} (h : Right method asked history e)
    (hasked : asked <+: asked') (more : List Server.Serving.Event) :
    Right method asked' (history ++ more) e := by
  obtain ⟨m, hm, hsame⟩ := h.named
  obtain ⟨r, hr, hbytes⟩ := h.made
  refine ⟨h.known.more more, ⟨m, ?_, hsame⟩, r, getElem?_extends hasked hr, hbytes⟩
  rw [collect_append]
  exact List.mem_append_left _ hm

theorem Incoming.right {caller tag : Nat} {payload : CodRecvMsg} {m : MethodCall}
    (h : Incoming method s caller payload m) (hknown : Known s.server.log m) :
    Right method s.stub.asked s.server.log ⟨caller, tag, m, payload⟩ :=
  ⟨hknown, h.named, h.made⟩

private theorem brought_known (h : Server.Serving.Routes s.server) {index tag : Nat}
    {m : MethodCall}
    (hbrought : brought s.server (.next index true) = some (tag, m)) : Known s.server.log m := by
  obtain ⟨ptr, hptr, hmethod⟩ := Option.bind_eq_some_iff.mp hbrought
  have hheld : (tag, m) ∈ s.server.requestedCalls :=
    List.mem_filterMap.mpr ⟨ptr, List.mem_of_getElem? hptr, hmethod⟩
  exact (h.held (tag, m) hheld).1

private theorem step_serves (h : Serves method s) (hcarried : Carried own method s label)
    (hstep : (machine client grpc replies).step s label = some t) : Serves method t := by
  have hcases : Steps client grpc replies s label t := step_cases hstep
  cases hcases with
  | client hclient =>
    refine { h with right := fun e he => ?_ }
    simpa using (h.right e he).later (step_asked hclient) []
  | server hnone hserver =>
    obtain ⟨more, hlog, hcalls⟩ := step_calls hserver
    rw [hnone] at hcalls
    refine ⟨Server.Serving.step_routes h.routes hserver, ?_, h.once, fun e he => ?_⟩
    · rw [hlog, collect_append, hcalls, h.calls]
      exact List.append_nil _
    · rw [hlog]
      exact (h.right e he).later List.prefix_rfl more
  | @callMethod index caller tag payload m server hbrought hserver =>
    obtain ⟨more, hlog, hcalls⟩ := step_calls hserver
    rw [hbrought] at hcalls
    have hnew : Incoming method s caller payload m := hcarried tag m hbrought
    have hright : Right method s.stub.asked s.server.log ⟨caller, tag, m, payload⟩ :=
      hnew.right (brought_known h.routes hbrought)
    refine ⟨Server.Serving.step_routes h.routes hserver, ?_, ?_, fun e he => ?_⟩
    · rw [hlog, collect_append, hcalls, h.calls]
      simp
    · rw [List.map_append, List.map_singleton]
      exact h.once.append (List.nodup_singleton _) (List.disjoint_singleton.mpr hnew.new)
    · rw [hlog]
      rcases List.mem_append.mp he with he | he
      · exact (h.right e he).later List.prefix_rfl more
      · obtain rfl := List.mem_singleton.mp he
        exact hright.later List.prefix_rfl more
  | reply => exact { h with }

end serves

/-- A call of `CallMethod` for this request: its method is registered under the name that
was asked for, and its payload is the request. -/
structure Routed (name : StdString) (r : Client.ServiceStub.Run.Request) (s : State) (e : Served) :
    Prop where
  name : e.method.name? = some name
  registered : Known s.server.log e.method
  called : .callMethod e.tag e.method.service e.method.methodIndex e.method.payload ∈ s.server.log
  payload : e.method.payload = true →
    e.payload.recvBuf.map RawByteBuffer.contents = some (.readable r.request)

section routed

variable {method : Nat → StdString} {s : State}

theorem Right.name {asked : List Client.ServiceStub.Run.Request}
    {history : List Server.Serving.Event} {e : Served} (h : Right method asked history e)
    (htable : AtEach NameTable history) : e.method.name? = some (method e.caller) := by
  obtain ⟨m, hm, hhandle, hname⟩ := h.named
  have hown : e.method ∈ collect registeredCall history :=
    List.mem_filterMap.mpr ⟨_, h.known.registered, rfl⟩
  obtain rfl : m = e.method :=
    List.inj_on_of_nodup_map (Server.Serving.handles_nodup htable) hm hown hhandle
  exact hname

theorem Serves.routed (h : Serves method s) (htable : AtEach NameTable s.server.log) {e : Served}
    (he : e ∈ s.served) {r : Client.ServiceStub.Run.Request}
    (hasked : s.stub.asked[e.caller]? = some r) : Routed (method e.caller) r s e := by
  have hright := h.right e he
  obtain ⟨r', hr', hbytes⟩ := hright.made
  obtain rfl : r = r' := Option.some.inj (hasked.symm.trans hr')
  refine ⟨hright.name htable, hright.known, ?_, fun hpayload => ?_⟩
  · have hcall : (e.tag, e.method.service, e.method.methodIndex, e.method.payload) ∈
        collect callMethod s.server.log := by
      rw [h.calls]
      exact List.mem_map_of_mem he
    obtain ⟨event, hevent, hfound⟩ := List.mem_filterMap.mp hcall
    cases event with
    | callMethod => simp_all
    | _ => simp at hfound
  · have hcarried := hbytes hpayload
    have hsent : sentMessage r.tag.grpcOps = some (copyMsgStr r.request) := rfl
    rw [CarriesMessage, hsent] at hcarried
    obtain ⟨buffer, hbuffer, hread⟩ := Option.map_eq_some_iff.mp hcarried
    rw [readAll_copyMsgStr] at hread
    simp [hbuffer, RawByteBuffer.contents, hread, stringFromCopiedSlice]

end routed

end GrpcCbCore.System.Rpc
