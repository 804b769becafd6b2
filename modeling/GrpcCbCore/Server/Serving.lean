import GrpcCbCore.Common.Call
import GrpcCbCore.Library.Machine

/-! `Server`, its completion queue, and the loop of `Run` that takes tags off the queue.
Any thread may hand tags over or shut the server down between two steps of the loop, and
so may the callbacks that a tag makes while it completes. The dispatch of anything but a tag
ends the run. -/
namespace GrpcCbCore.Server.Serving
open GrpcCbCore.Library

structure Method where
  name : StdString
  clientStreaming : Bool
  deriving DecidableEq, Repr

/-- A `Service`: which object it is, and what its virtual functions answer. -/
structure Service where
  object : Nat
  fullName : StdString
  methods : List Method
  deriving DecidableEq, Repr

def Service.isMethodClientStreaming (service : Service) (methodIndex : Nat) : Bool :=
  (service.methods[methodIndex]?.map Method.clientStreaming).getD false

/-- `grpc_server_register_method_payload_handling`. -/
inductive PayloadHandling where
  | none
  | readInitialByteBuffer
  deriving DecidableEq, Repr

def getMethodPayloadHandling (service : Service) (methodIndex : Nat) : PayloadHandling :=
  if service.isMethodClientStreaming methodIndex then .none else .readInitialByteBuffer

/-- What `grpc_server_register_method` has returned, when it is not null. -/
abbrev RegisteredMethod := Nat

structure RegisteredService where
  service : Service
  registeredMethods : List (Option RegisteredMethod) := []
  deriving DecidableEq, Repr

abbrev ServiceMap := List (StdString × RegisteredService)

/-- `service_map_[name] = rs`. -/
def ServiceMap.put (name : StdString) (rs : RegisteredService) (serviceMap : ServiceMap) :
    ServiceMap :=
  if serviceMap.any (·.1 = name) then
    serviceMap.map fun e => if e.1 = name then (name, rs) else e
  else serviceMap ++ [(name, rs)]

/-- The constant members of a `ServerMethodCallCqTag`. -/
structure MethodCall where
  service : Service
  methodIndex : Nat
  registeredMethod : RegisteredMethod
  deriving DecidableEq, Repr

/-- `optional_payload` is not null. -/
def MethodCall.payload (m : MethodCall) : Bool :=
  !m.service.isMethodClientStreaming m.methodIndex

inductive Tag where
  | methodCall (m : MethodCall)
  | call (tag : CqTag)
  deriving DecidableEq, Repr

/-- The `void*` that a completion queue is given: the address of a tag made with `new`,
or that of the `Server`. -/
inductive Pointer where
  | server
  | tag (id : Nat) (tag : Tag)
  deriving DecidableEq, Repr

inductive Site where
  | constructorMethodIndex | constructorCallOk
  deriving DecidableEq, Repr

inductive Event where
  | registerMethod (service : Service) (methodIndex : Nat) (payloadHandling : PayloadHandling)
      (registeredMethod : Option RegisteredMethod)
  | new (id : Nat) (tag : Tag)
  | requestRegisteredCall (id : Nat) (m : MethodCall) (payload accepted : Bool)
  | start (id : Nat) (tag : CqTag) (accepted : Bool)
  | shutdownAndNotify
  | queueShutdown
  | next (ptr : Pointer) (success : Bool)
  | callMethod (id : Nat) (service : Service) (methodIndex : Nat) (payload : Bool)
  | doComplete (ptr : Pointer) (success : Bool)
  | delete (ptr : Pointer)
  | fault (site : Site)
  deriving DecidableEq, Repr

/-- Where the thread of `Run` is: not there yet, in `RequestMethodsCalls` with these tags
still to make, before `Next`, between `Next` and the `delete` of a tag in `DoNextCompletion`,
lost in the `DoComplete` of what is no tag, or back from `Run`. -/
inductive Loop where
  | outside
  | requesting (rest : List MethodCall)
  | waiting
  | completing (id : Nat) (tag : Tag) (success : Bool)
  | crashed
  | returned
  deriving DecidableEq, Repr

/-- The members of `Server`, its completion queue, and the loop of `Run`; `made` is how
many tags have been made so far. -/
structure State where
  started : Bool := false
  shutdown : Bool := false
  serviceMap : ServiceMap := []
  queueShutdown : Bool := false
  outstanding : List Pointer := []
  made : Nat := 0
  loop : Loop := .outside
  registrations : Nat := 0
  requests : Nat := 0
  starts : Nat := 0
  log : List Event := []

/-- What grpc answers: to the `k`-th registration, the `k`-th request of a method call
on an open queue, and the `k`-th batch. -/
structure Grpc where
  registerMethod : Nat → Option RegisteredMethod
  requestRegisteredCall : Nat → Bool
  startBatch : Nat → Bool

section

variable (grpc : Grpc)

def registerMethods (service : Service) :
    List Nat → State → List (Option RegisteredMethod) × State
  | [], s => ([], s)
  | i :: rest, s =>
      let registeredMethod := grpc.registerMethod s.registrations
      let s := { s with
        registrations := s.registrations + 1
        log := s.log ++ [.registerMethod service i (getMethodPayloadHandling service i)
          registeredMethod] }
      let r := registerMethods service rest s
      (registeredMethod :: r.1, r.2)

def registerService (service : Service) (s : State) : State :=
  let r := registerMethods grpc service (List.range service.methods.length) s
  { r.2 with serviceMap := r.2.serviceMap.put service.fullName ⟨service, r.1⟩ }

/-- The tags that `RequestServiceMethodsCalls` makes; a null method has none. -/
def requestServiceMethodsCalls (rs : RegisteredService) : List MethodCall :=
  rs.registeredMethods.zipIdx.filterMap fun r => r.1.map fun registeredMethod =>
    ⟨rs.service, r.2, registeredMethod⟩

def requestMethodsCalls (serviceMap : ServiceMap) : List MethodCall :=
  serviceMap.flatMap fun e => requestServiceMethodsCalls e.2

/-- `new ServerMethodCallCqTag`. grpc refuses the request on a queue that has been shut
down; the constructor asserts that it did not, and does no more about it. -/
def serverMethodCallCqTag (m : MethodCall) (s : State) : State :=
  let accepted := !s.queueShutdown && grpc.requestRegisteredCall s.requests
  { s with
    made := s.made + 1
    requests := s.requests + 1
    outstanding :=
      if accepted then s.outstanding ++ [.tag s.made (.methodCall m)] else s.outstanding
    log := s.log ++
      ([.new s.made (.methodCall m)] ++
        (if m.methodIndex < m.service.methods.length then []
          else [.fault .constructorMethodIndex]) ++
        [.requestRegisteredCall s.made m m.payload accepted] ++
        if accepted then [] else [.fault .constructorCallOk]) }

/-- The pattern of every other start: `new`, `Start`, and `delete` of a refused tag. -/
def newAndStart (tag : CqTag) (s : State) : State :=
  let accepted := grpc.startBatch s.starts
  { s with
    made := s.made + 1
    starts := s.starts + 1
    outstanding := if accepted then s.outstanding ++ [.tag s.made (.call tag)] else s.outstanding
    log := s.log ++
      ([.new s.made (.call tag), .start s.made tag accepted] ++
        if accepted then [] else [.delete (.tag s.made (.call tag))]) }

/-- `Run` up to its loop over `service_map_`, which comes in some order. -/
def run (order : ServiceMap) (s : State) : State :=
  { s with started := true, loop := .requesting (requestMethodsCalls order) }

/-- The first part of `ShutdownInternal`, with the server itself as the tag. -/
def shutdownInternal (s : State) : State :=
  if !s.started then s
  else if s.shutdown then s
  else { s with
    shutdown := true
    outstanding := s.outstanding ++ [.server]
    log := s.log ++ [.shutdownAndNotify] }

/-- `DoNextCompletion` takes what it is given for a tag. The `Server` is none: the virtual
call goes through a foreign vtable, and no more can be said of the program. -/
def dispatch (ptr : Pointer) (success : Bool) : Loop :=
  match ptr with
  | .tag id tag => .completing id tag success
  | .server => .crashed

/-- What the `DoComplete` of a tag does at once; the callbacks of other tags are steps of
their own. -/
def beginComplete (ptr : Pointer) (success : Bool) : List Event :=
  match ptr, success with
  | .tag id (.methodCall m), true => [.callMethod id m.service m.methodIndex m.payload]
  | _, _ => []

/-- The end of `DoComplete`: a method call is requested again, whatever its success. -/
def endComplete (tag : Tag) (s : State) : State :=
  match tag with
  | .methodCall m => serverMethodCallCqTag grpc m s
  | .call _ => s

/-- The rest of `DoNextCompletion`. -/
def finish (id : Nat) (tag : Tag) (success : Bool) (s : State) : State :=
  let s := endComplete grpc tag s
  { s with
    loop := .waiting
    log := s.log ++ [.doComplete (.tag id tag) success, .delete (.tag id tag)] }

end

/-- `request` is a turn of the loops in `RequestMethodsCalls`, or their end; `next`,
`finish` and `queueEmpty` are parts of `DoNextCompletion`. -/
inductive Label where
  | registerService (service : Service)
  | run (order : ServiceMap)
  | request
  | next (index : Nat) (success : Bool)
  | finish
  | queueEmpty
  | shutdown
  | shutdownQueue
  | newAndStart (tag : CqTag)

/-- A program that has crashed makes no step. -/
def step (grpc : Grpc) (s : State) (label : Label) : Option State :=
  if s.loop = .crashed then none
  else
    match label with
    | .registerService service => some (registerService grpc service s)
    | .run order =>
        if s.started = false ∧ s.shutdown = false ∧ order.Perm s.serviceMap then
          some (run order s)
        else none
    | .request =>
        match s.loop with
        | .requesting (m :: rest) =>
            some { serverMethodCallCqTag grpc m s with loop := .requesting rest }
        | .requesting [] => some { s with loop := .waiting }
        | _ => none
    | .next index success =>
        match s.loop, s.outstanding[index]? with
        | .waiting, some ptr => some { s with
            outstanding := s.outstanding.eraseIdx index
            loop := dispatch ptr success
            log := s.log ++ (.next ptr success :: beginComplete ptr success) }
        | _, _ => none
    | .finish =>
        match s.loop with
        | .completing id tag success => some (finish grpc id tag success s)
        | _ => none
    | .queueEmpty =>
        if s.loop = .waiting ∧ s.queueShutdown = true ∧ s.outstanding = [] then
          some { s with loop := .returned }
        else none
    | .shutdown => some (shutdownInternal s)
    | .shutdownQueue =>
        if s.shutdown = true ∧ s.queueShutdown = false then
          some { s with queueShutdown := true, log := s.log ++ [.queueShutdown] }
        else none
    | .newAndStart tag => some (newAndStart grpc tag s)

def machine (grpc : Grpc) : Machine State Label where
  step := step grpc

@[simp] theorem dispatch_ne_outside (ptr : Pointer) (success : Bool) :
    dispatch ptr success ≠ .outside := by
  cases ptr <;> simp [dispatch]

@[simp] theorem dispatch_ne_returned (ptr : Pointer) (success : Bool) :
    dispatch ptr success ≠ .returned := by
  cases ptr <;> simp [dispatch]

inductive Steps (grpc : Grpc) (s : State) : Label → State → Prop
  | registers (service : Service) :
      Steps grpc s (.registerService service) (registerService grpc service s)
  | runs (order : ServiceMap) (hnew : s.started = false) (hopen : s.shutdown = false)
      (horder : order.Perm s.serviceMap) : Steps grpc s (.run order) (run order s)
  | requests (m : MethodCall) (rest : List MethodCall) (hloop : s.loop = .requesting (m :: rest)) :
      Steps grpc s .request { serverMethodCallCqTag grpc m s with loop := .requesting rest }
  | requested (hloop : s.loop = .requesting []) : Steps grpc s .request { s with loop := .waiting }
  | next (index : Nat) (success : Bool) (ptr : Pointer) (hloop : s.loop = .waiting)
      (hptr : s.outstanding[index]? = some ptr) :
      Steps grpc s (.next index success) { s with
        outstanding := s.outstanding.eraseIdx index
        loop := dispatch ptr success
        log := s.log ++ (.next ptr success :: beginComplete ptr success) }
  | finishes (id : Nat) (tag : Tag) (success : Bool) (hloop : s.loop = .completing id tag success) :
      Steps grpc s .finish (finish grpc id tag success s)
  | empties (hloop : s.loop = .waiting) (hshut : s.queueShutdown = true)
      (hempty : s.outstanding = []) : Steps grpc s .queueEmpty { s with loop := .returned }
  | ignoresShutdown (hshut : s.started = true → s.shutdown = true) : Steps grpc s .shutdown s
  | shuts (hstarted : s.started = true) (hopen : s.shutdown = false) :
      Steps grpc s .shutdown { s with
        shutdown := true
        outstanding := s.outstanding ++ [.server]
        log := s.log ++ [.shutdownAndNotify] }
  | shutsQueue (hshut : s.shutdown = true) (hopen : s.queueShutdown = false) :
      Steps grpc s .shutdownQueue
        { s with queueShutdown := true, log := s.log ++ [.queueShutdown] }
  | starts (tag : CqTag) : Steps grpc s (.newAndStart tag) (newAndStart grpc tag s)

theorem step_running {grpc : Grpc} {s t : State} {label : Label}
    (hstep : step grpc s label = some t) : s.loop ≠ .crashed := by
  intro hcrashed
  simp [step, hcrashed] at hstep

theorem step_cases {grpc : Grpc} {s t : State} {label : Label}
    (hstep : step grpc s label = some t) : Steps grpc s label t := by
  have hrunning := step_running hstep
  unfold step at hstep
  rw [if_neg hrunning] at hstep
  cases label with
  | registerService service =>
    cases hstep
    exact .registers service
  | run order =>
    simp only [Option.ite_none_right_eq_some, Option.some.injEq] at hstep
    obtain ⟨⟨hnew, hopen, horder⟩, rfl⟩ := hstep
    exact .runs order hnew hopen horder
  | request =>
    cases hloop : s.loop with
    | requesting rest =>
      cases rest with
      | nil =>
        obtain rfl : { s with loop := .waiting } = t := by simpa [hloop] using hstep
        exact .requested hloop
      | cons m rest =>
        obtain rfl : { serverMethodCallCqTag grpc m s with loop := .requesting rest } = t := by
          simpa [hloop] using hstep
        exact .requests m rest hloop
    | _ => simp [hloop] at hstep
  | next index success =>
    cases hloop : s.loop with
    | waiting =>
      cases hptr : s.outstanding[index]? with
      | none => simp [hloop, hptr] at hstep
      | some ptr =>
        simp only [hloop, hptr, Option.some.injEq] at hstep
        exact hstep ▸ .next index success ptr hloop hptr
    | _ => simp [hloop] at hstep
  | finish =>
    cases hloop : s.loop with
    | completing id tag success =>
      obtain rfl : finish grpc id tag success s = t := by simpa [hloop] using hstep
      exact .finishes id tag success hloop
    | _ => simp [hloop] at hstep
  | queueEmpty =>
    simp only [Option.ite_none_right_eq_some, Option.some.injEq] at hstep
    obtain ⟨⟨hloop, hshut, hempty⟩, rfl⟩ := hstep
    exact .empties hloop hshut hempty
  | shutdown =>
    obtain rfl : shutdownInternal s = t := by simpa using hstep
    unfold shutdownInternal
    split
    · next hnew => exact .ignoresShutdown (by simp_all)
    · next hstarted =>
      split
      · next hshut => exact .ignoresShutdown fun _ => hshut
      · next hopen => exact .shuts (by simpa using hstarted) (by simpa using hopen)
  | shutdownQueue =>
    simp only [Option.ite_none_right_eq_some, Option.some.injEq] at hstep
    obtain ⟨⟨hshut, hopen⟩, rfl⟩ := hstep
    exact .shutsQueue hshut hopen
  | newAndStart tag =>
    cases hstep
    exact .starts tag

end GrpcCbCore.Server.Serving
