import GrpcCbCore.Server.Serving
import GrpcCbCore.Library.Custody

/-! The tags of a server are in good custody, but for the requests that grpc refuses
and for the server itself, which `ShutdownInternal` hands over as a tag. -/
namespace GrpcCbCore.Server.Serving
open GrpcCbCore.Library

def registered (service : Service) (indices : List Nat)
    (answers : List (Option RegisteredMethod)) : List Event :=
  List.zipWith (fun i answer =>
    .registerMethod service i (getMethodPayloadHandling service i) answer) indices answers

theorem mem_registered {service : Service} {indices : List Nat}
    {answers : List (Option RegisteredMethod)} {e : Event}
    (he : e ∈ registered service indices answers) : ∃ i ∈ indices, ∃ answer,
      e = .registerMethod service i (getMethodPayloadHandling service i) answer := by
  obtain ⟨k, hk, rfl⟩ := List.mem_iff_getElem.mp he
  simp [registered]

theorem registered_silent {β : Type} {f : Event → Option β}
    (hf : ∀ service i handling answer, f (.registerMethod service i handling answer) = none)
    (service : Service) (indices : List Nat) (answers : List (Option RegisteredMethod)) :
    collect f (registered service indices answers) = [] := by
  refine collect_eq_nil _ _ fun e he => ?_
  obtain ⟨i, -, answer, rfl⟩ := mem_registered he
  exact hf ..

private theorem registerMethods_eq (grpc : Grpc) (service : Service) (indices : List Nat)
    (s : State) : ∃ answers, answers.length = indices.length ∧
      registerMethods grpc service indices s = (answers, { s with
        registrations := s.registrations + indices.length
        log := s.log ++ registered service indices answers }) := by
  induction indices generalizing s with
  | nil => exact ⟨[], rfl, by simp [registerMethods, registered]⟩
  | cons i rest ih =>
    obtain ⟨answers, hlength, heq⟩ := ih { s with
      registrations := s.registrations + 1
      log := s.log ++ [.registerMethod service i (getMethodPayloadHandling service i)
        (grpc.registerMethod s.registrations)] }
    refine ⟨grpc.registerMethod s.registrations :: answers, by simp [hlength], ?_⟩
    simp only [registerMethods, heq, registered, List.zipWith_cons_cons, List.length_cons,
      List.append_assoc, List.singleton_append, Nat.add_assoc, Nat.add_comm 1]

theorem registerService_eq (grpc : Grpc) (service : Service) (s : State) :
    ∃ answers, answers.length = service.methods.length ∧
      registerService grpc service s = { s with
        serviceMap := s.serviceMap.put service.fullName ⟨service, answers⟩
        registrations := s.registrations + service.methods.length
        log := s.log ++ registered service (List.range service.methods.length) answers } := by
  obtain ⟨answers, hlength, heq⟩ :=
    registerMethods_eq grpc service (List.range service.methods.length) s
  rw [List.length_range] at hlength heq
  exact ⟨answers, hlength, by simp only [registerService, heq]⟩

def Pointer.id? : Pointer → Option Nat
  | .server => none
  | .tag id _ => some id

def Loop.inUse : Loop → Option Nat
  | .completing id _ _ => some id
  | _ => none

@[simp] theorem inUse_waiting : Loop.waiting.inUse = none := rfl

@[simp] theorem inUse_completing (id : Nat) (tag : Tag) (success : Bool) :
    (Loop.completing id tag success).inUse = some id := rfl

@[simp] theorem inUse_dispatch (ptr : Pointer) (success : Bool) :
    (dispatch ptr success).inUse = ptr.id? := by
  cases ptr <;> rfl

@[simp] def stage : Event → Option (Nat × Stage)
  | .new id _ => some (id, .made)
  | .requestRegisteredCall id _ _ accepted => some (id, .handed accepted)
  | .start id _ accepted => some (id, .handed accepted)
  | .next (.tag id _) _ => some (id, .returned)
  | .doComplete (.tag id _) _ => some (id, .used)
  | .delete (.tag id _) => some (id, .deleted)
  | _ => none

def State.custody (s : State) : Custody Nat where
  held := s.outstanding.filterMap Pointer.id?
  inUse := s.loop.inUse
  log := collect stage s.log

/-- The request of a method call that a step makes. -/
def makes (s : State) : Label → Option MethodCall
  | .request =>
      match s.loop with
      | .requesting (m :: _) => some m
      | _ => none
  | .finish =>
      match s.loop with
      | .completing _ (.methodCall m) _ => some m
      | _ => none
  | _ => none

/-- A request is made on an open queue only, and grpc accepts it. -/
def Accepts (grpc : Grpc) (s : State) (label : Label) : Prop :=
  makes s label ≠ none →
    s.queueShutdown = false ∧ grpc.requestRegisteredCall s.requests = true

/-- The tags are in good custody; those yet to be made have no life. -/
structure Kept (s : State) : Prop where
  orderly : Custody.Orderly s.custody
  fresh : ∀ id, s.made ≤ id → Custody.life id s.custody.log = []

section custody

variable {grpc : Grpc} {s t : State}

private theorem accepted_request {m : MethodCall} (hopen : s.queueShutdown = false)
    (hgrpc : grpc.requestRegisteredCall s.requests = true) :
    (serverMethodCallCqTag grpc m s).custody = { s.custody with
      held := s.custody.held ++ [s.made]
      log := s.custody.log ++ [(s.made, .made), (s.made, .handed true)] } := by
  by_cases hindex : m.methodIndex < m.service.methods.length <;>
    simp [serverMethodCallCqTag, State.custody, hopen, hgrpc, hindex, Pointer.id?]

private theorem refused_request {m : MethodCall}
    (hrefused : ¬ (s.queueShutdown = false ∧ grpc.requestRegisteredCall s.requests = true)) :
    (serverMethodCallCqTag grpc m s).custody = { s.custody with
      log := s.custody.log ++ [(s.made, .made), (s.made, .handed false)] } := by
  have haccepted : (!s.queueShutdown && grpc.requestRegisteredCall s.requests) = false := by
    simpa using hrefused
  by_cases hindex : m.methodIndex < m.service.methods.length <;>
    simp [serverMethodCallCqTag, State.custody, haccepted, hindex]

private theorem newAndStart_custody (tag : CqTag) :
    (newAndStart grpc tag s).custody =
      if grpc.startBatch s.starts then { s.custody with
        held := s.custody.held ++ [s.made]
        log := s.custody.log ++ [(s.made, .made), (s.made, .handed true)] }
      else { s.custody with
        log := s.custody.log ++
          [(s.made, .made), (s.made, .handed false), (s.made, .deleted)] } := by
  cases hgrpc : grpc.startBatch s.starts <;>
    simp [newAndStart, State.custody, hgrpc, Pointer.id?]

private theorem fresh_more {log : List (Nat × Stage)} {made : Nat}
    (h : ∀ id, made ≤ id → Custody.life id log = []) (stages : List Stage) :
    ∀ id, made + 1 ≤ id → Custody.life id (log ++ stages.map (made, ·)) = [] := by
  intro id hid
  have hother : Custody.life id (stages.map (made, ·)) = [] := by
    have hne : made ≠ id := by omega
    induction stages with
    | nil => rfl
    | cons stage stages ih => rw [List.map_cons, Custody.life_cons_ne hne, ih]
  rw [Custody.life_append, h id (by omega), hother]
  rfl

theorem Kept.same (h : Kept s) (hcustody : t.custody = s.custody) (hmade : t.made = s.made) :
    Kept t :=
  ⟨hcustody ▸ h.orderly, fun id hid => hcustody ▸ h.fresh id (hmade ▸ hid)⟩

theorem Kept.hand (h : Kept s)
    (hcustody : t.custody = { s.custody with
      held := s.custody.held ++ [s.made]
      log := s.custody.log ++ [(s.made, .made), (s.made, .handed true)] })
    (hmade : t.made = s.made + 1) : Kept t := by
  refine ⟨hcustody ▸ h.orderly.hand (h.fresh _ (Nat.le_refl _)), ?_⟩
  rw [hmade, hcustody]
  exact fresh_more h.fresh [.made, .handed true]

theorem Kept.refuse (h : Kept s)
    (hcustody : t.custody = { s.custody with
      log := s.custody.log ++
        [(s.made, .made), (s.made, .handed false), (s.made, .deleted)] })
    (hmade : t.made = s.made + 1) : Kept t := by
  refine ⟨hcustody ▸ h.orderly.refuse (h.fresh _ (Nat.le_refl _)), ?_⟩
  rw [hmade, hcustody]
  exact fresh_more h.fresh [.made, .handed false, .deleted]

theorem Kept.ne_fresh (h : Kept s) {id other : Nat}
    (hlife : Custody.life id s.custody.log ≠ []) (hother : s.made ≤ other) : id ≠ other := by
  rintro rfl
  exact hlife (h.fresh id hother)

theorem Kept.next (h : Kept s) {index : Nat} {success : Bool} (hfree : s.loop = .waiting)
    {ptr : Pointer} (hptr : s.outstanding[index]? = some ptr) :
    Kept { s with
      outstanding := s.outstanding.eraseIdx index
      loop := dispatch ptr success
      log := s.log ++ (.next ptr success :: beginComplete ptr success) } := by
  obtain ⟨before, after, hsplit, herase⟩ := exists_eraseIdx hptr
  have hbegin : collect stage (beginComplete ptr success) = [] := by
    unfold beginComplete
    split <;> rfl
  have hheld : s.custody.held = (before ++ ptr :: after).filterMap Pointer.id? := by
    simp only [State.custody, hsplit]
  have hidle : s.custody.inUse = none := by simp [State.custody, hfree]
  rw [herase]
  cases ptr with
  | server =>
    refine h.same ?_ rfl
    simp [State.custody, hsplit, hbegin, hfree, Pointer.id?, List.filterMap_cons]
  | tag id tag =>
    have hsplitIds : s.custody.held =
        before.filterMap Pointer.id? ++ id :: after.filterMap Pointer.id? := by
      simp [hheld, Pointer.id?]
    have htaken := h.orderly.take hsplitIds hidle
    refine ⟨?_, fun other hother => ?_⟩
    · simpa [State.custody, hbegin, Pointer.id?] using htaken
    · have hlife := h.orderly.held id (by simp [hheld, Pointer.id?])
      have hne : id ≠ other := h.ne_fresh (by simp [hlife, Stage.held]) hother
      simpa [State.custody, hbegin, Custody.life_cons_ne hne] using h.fresh other hother

theorem Kept.dispose (h : Kept s) {id : Nat} {tag : Tag} {success : Bool}
    (huse : s.loop.inUse = some id) :
    Kept { s with
      loop := .waiting
      log := s.log ++ [.doComplete (.tag id tag) success, .delete (.tag id tag)] } := by
  have hinUse : s.custody.inUse = some id := by simp [State.custody, huse]
  have hdisposed := h.orderly.dispose hinUse
  refine ⟨?_, fun other hother => ?_⟩
  · simpa [State.custody] using hdisposed
  · have hlife := h.orderly.inUse id hinUse
    have hne : id ≠ other := h.ne_fresh (by simp [hlife, Stage.inUse]) hother
    simpa [State.custody, Custody.life_cons_ne hne] using h.fresh other hother

private theorem registerService_kept (h : Kept s) (service : Service) :
    Kept (registerService grpc service s) := by
  obtain ⟨answers, -, heq⟩ := registerService_eq grpc service s
  refine h.same ?_ (by simp [heq])
  have hsilent := registered_silent (f := stage) (by simp) service
  simp [heq, State.custody, hsilent]

theorem Kept.request (h : Kept s) {m : MethodCall}
    (haccepts : s.queueShutdown = false ∧ grpc.requestRegisteredCall s.requests = true) :
    Kept (serverMethodCallCqTag grpc m s) :=
  h.hand (accepted_request haccepts.1 haccepts.2) rfl

/-- Where the thread of `Run` can be, and what has been shut down. -/
structure Sane (s : State) : Prop where
  outside : s.started = false ↔ s.loop = .outside
  shutdown : s.shutdown = true → s.started = true
  queue : s.queueShutdown = true → s.shutdown = true

theorem endComplete_frame (grpc : Grpc) (tag : Tag) (s : State) :
    (endComplete grpc tag s).started = s.started ∧
    (endComplete grpc tag s).shutdown = s.shutdown ∧
    (endComplete grpc tag s).queueShutdown = s.queueShutdown := by
  unfold endComplete
  split <;> exact ⟨rfl, rfl, rfl⟩

theorem step_sane (h : Sane s) {label : Label} (hstep : step grpc s label = some t) : Sane t := by
  obtain ⟨houtside, hshutdown, hqueue⟩ := h
  cases step_cases hstep with
  | registers service =>
    obtain ⟨answers, -, heq⟩ := registerService_eq grpc service s
    constructor <;> simpa [heq]
  | runs order hnew hopen =>
    refine ⟨by simp [run], fun h => ?_, hqueue⟩
    rfl
  | requests m rest hloop =>
    refine ⟨?_, hshutdown, hqueue⟩
    simpa [serverMethodCallCqTag, hloop] using houtside
  | requested hloop => exact ⟨by simpa [hloop] using houtside, hshutdown, hqueue⟩
  | next index success ptr hloop =>
    refine ⟨?_, hshutdown, hqueue⟩
    cases ptr <;> simpa [hloop, dispatch] using houtside
  | finishes id tag success hloop =>
    obtain ⟨hsame, hshut, hqueueShut⟩ := endComplete_frame grpc tag s
    refine ⟨?_, ?_, ?_⟩
    · simpa [finish, hsame, hloop] using houtside
    · simpa [finish, hsame, hshut] using hshutdown
    · simpa [finish, hshut, hqueueShut] using hqueue
  | empties hloop => exact ⟨by simpa [hloop] using houtside, hshutdown, hqueue⟩
  | ignoresShutdown => exact ⟨houtside, hshutdown, hqueue⟩
  | shuts hstarted => exact ⟨houtside, fun _ => hstarted, fun _ => rfl⟩
  | shutsQueue hshut => exact ⟨houtside, hshutdown, fun _ => hshut⟩
  | starts tag => exact ⟨houtside, hshutdown, hqueue⟩

/-- A step keeps the tags in good custody if grpc accepts the request that it makes. -/
theorem step_kept (hsane : Sane s) (h : Kept s) {label : Label} (haccepts : Accepts grpc s label)
    (hstep : step grpc s label = some t) : Kept t := by
  cases step_cases hstep with
  | registers service => exact registerService_kept h service
  | runs order hnew =>
    refine h.same ?_ rfl
    simp [State.custody, run, hsane.outside.mp hnew, Loop.inUse]
  | requests m rest hloop =>
    have hrequest : Kept (serverMethodCallCqTag grpc m s) :=
      h.request (haccepts (by simp [makes, hloop]))
    refine hrequest.same ?_ rfl
    simp [State.custody, serverMethodCallCqTag, hloop, Loop.inUse]
  | requested hloop =>
    refine h.same ?_ rfl
    simp [State.custody, hloop, Loop.inUse]
  | next index success ptr hloop hptr => exact h.next hloop hptr
  | finishes id tag success hloop =>
    have huse : s.loop.inUse = some id := by simp [hloop]
    unfold finish endComplete
    split
    · next m =>
      have hrequest : Kept (serverMethodCallCqTag grpc m s) :=
        h.request (haccepts (by simp [makes, hloop]))
      exact hrequest.dispose huse
    · exact h.dispose huse
  | empties hloop =>
    refine h.same ?_ rfl
    simp [State.custody, hloop, Loop.inUse]
  | ignoresShutdown => exact h
  | shuts =>
    refine h.same ?_ rfl
    simp [State.custody, Pointer.id?, List.filterMap_cons]
  | shutsQueue =>
    refine h.same ?_ rfl
    simp [State.custody]
  | starts tag =>
    cases hgrpc : grpc.startBatch s.starts with
    | true => exact h.hand (by simp [newAndStart_custody, hgrpc]) rfl
    | false => exact h.refuse (by simp [newAndStart_custody, hgrpc]) rfl

/-- A request that grpc refuses leaves its tag behind. -/
theorem step_leaks (h : Kept s) {label : Label} (hbad : ¬ Accepts grpc s label)
    (hstep : step grpc s label = some t) :
    Custody.life s.made t.custody.log = [.made, .handed false] := by
  obtain ⟨hmakes, hrefused⟩ := Classical.not_imp.mp hbad
  have hnew : Custody.life s.made (collect stage s.log) = [] := h.fresh s.made (Nat.le_refl _)
  have hlog (m : MethodCall) : collect stage (serverMethodCallCqTag grpc m s).log =
      collect stage s.log ++ [(s.made, .made), (s.made, .handed false)] :=
    congrArg Custody.log (refused_request hrefused)
  cases step_cases hstep with
  | requests m rest => simp [State.custody, hlog m, hnew]
  | finishes id tag success hloop =>
    obtain ⟨m, rfl⟩ : ∃ m, tag = .methodCall m := by
      cases tag <;> simp_all [makes]
    have hlife := h.orderly.inUse id (by simp [State.custody, hloop])
    have hne : id ≠ s.made := h.ne_fresh (by simp [hlife, Stage.inUse]) (Nat.le_refl _)
    simp [State.custody, finish, endComplete, hlog m, hnew, Custody.life_cons_ne hne]
  | _ => simp_all [makes]

theorem init_sane : Sane {} where
  outside := by simp
  shutdown := by simp
  queue := by simp

theorem init_kept : Kept {} where
  orderly := Custody.Orderly.empty
  fresh := fun _ _ => rfl

end custody

end GrpcCbCore.Server.Serving
