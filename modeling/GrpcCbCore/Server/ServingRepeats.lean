import Mathlib.Data.List.Induction
import GrpcCbCore.Server.ServingMethods

/-! Registering under a name again. grpc gives a handle for a method name once, and the
map of a server forgets the handles under a name when that name is registered again. -/
namespace GrpcCbCore.Server.Serving
open GrpcCbCore.Library

@[simp] def requestedCall : Event → Option MethodCall
  | .requestRegisteredCall _ m _ _ => some m
  | _ => none

def MethodCall.name? (m : MethodCall) : Option StdString :=
  m.service.methods[m.methodIndex]?.map Method.name

/-- What `grpc_server_register_method` does: it returns null for a name that it has
registered, and otherwise a handle that it has not given before. -/
def NameTable (before : List Event) : Event → Prop
  | .registerMethod service i _ answer =>
      (answer = none ↔ service.methods[i]?.map Method.name ∈
        (collect registeredCall before).map MethodCall.name?) ∧
      ∀ handle, answer = some handle →
        handle ∉ (collect registeredCall before).map MethodCall.registeredMethod
  | _ => True

/-- The latest service of this full name that has a method of this name. -/
def latest (services : List Service) (fullName name : StdString) : Option Service :=
  (services.filter fun service =>
    service.fullName = fullName && service.methods.any (·.name = name)).getLast?

/-- Each handle that grpc has returned is requested, for the latest service that was
registered under its full name and has a method of its name. -/
def AllServed (services : List Service) (s : State) : Prop :=
  ∀ m ∈ collect registeredCall s.log, ∀ name, m.name? = some name →
    ∃ m' ∈ collect requestedCall s.log, m'.registeredMethod = m.registeredMethod ∧
      latest services m.service.fullName name = some m'.service ∧ m'.name? = some name

/-- No full name is registered again that a service was registered under with a method
name that was new then. -/
def Unrepeated (services : List Service) : Prop :=
  ∀ before service after, services = before ++ service :: after →
    (∃ later ∈ after, later.fullName = service.fullName) →
      ∀ method ∈ service.methods, ∃ earlier ∈ before, ∃ m ∈ earlier.methods, m.name = method.name

def RegisteredService.events (rs : RegisteredService) : List Event :=
  registered rs.service (List.range rs.service.methods.length) rs.registeredMethods

def RegisteredService.Full (rs : RegisteredService) : Prop :=
  rs.registeredMethods.length = rs.service.methods.length

def ServiceMap.putAll (entries : List RegisteredService) (serviceMap : ServiceMap) : ServiceMap :=
  entries.foldl (fun (map : ServiceMap) rs => map.put rs.service.fullName rs) serviceMap

section maps

private theorem filter_getLast? {α : Type} {p : α → Bool} {x : α} (before : List α) {after : List α}
    (hx : p x = true) (hafter : ∀ y ∈ after, p y = false) :
    ((before ++ x :: after).filter p).getLast? = some x := by
  have hnone : after.filter p = [] := by simpa using hafter
  rw [List.filter_append, List.filter_cons_of_pos hx, hnone, List.getLast?_concat]

private theorem mem_of_filter_getLast? {α : Type} {p : α → Bool} {x y last : α}
    {before after : List α} (hmem : y ∈ after) (hy : p y = true)
    (hlast : ((before ++ x :: after).filter p).getLast? = some last) : last ∈ after := by
  have hne : after.filter p ≠ [] := List.ne_nil_of_mem (List.mem_filter.mpr ⟨hmem, hy⟩)
  obtain ⟨final, hfinal⟩ := Option.isSome_iff_exists.mp (List.getLast?_isSome.mpr hne)
  rw [List.append_cons, List.filter_append, List.getLast?_append, hfinal] at hlast
  obtain rfl := Option.some.inj hlast
  exact List.mem_of_mem_filter (List.mem_of_getLast? hfinal)

theorem ServiceMap.mem_put {name : StdString} {rs : RegisteredService} {serviceMap : ServiceMap}
    {e : StdString × RegisteredService} :
    e ∈ serviceMap.put name rs ↔ e = (name, rs) ∨ (e.1 ≠ name ∧ e ∈ serviceMap) := by
  by_cases hold : name ∈ serviceMap.map (·.1)
  · obtain ⟨old, hmem, hname⟩ := List.mem_map.mp hold
    have hany : serviceMap.any (·.1 = name) = true :=
      List.any_eq_true.mpr ⟨old, hmem, by simp [hname]⟩
    rw [put, if_pos hany, List.mem_map]
    constructor
    · rintro ⟨x, hx, rfl⟩
      by_cases hxname : x.1 = name
      · simp [hxname]
      · simp [hxname, hx]
    · rintro (rfl | ⟨hne, hmem'⟩)
      · exact ⟨old, hmem, by simp [hname]⟩
      · exact ⟨e, hmem', by simp [hne]⟩
  · rw [ServiceMap.put_new hold, List.mem_append, List.mem_singleton]
    constructor
    · rintro (hmem | rfl)
      · exact .inr ⟨fun hname => hold (hname ▸ List.mem_map_of_mem hmem), hmem⟩
      · exact .inl rfl
    · rintro (rfl | ⟨-, hmem⟩)
      · exact .inr rfl
      · exact .inl hmem

theorem ServiceMap.mem_putAll (entries : List RegisteredService) (name : StdString)
    (rs : RegisteredService) :
    (name, rs) ∈ ServiceMap.putAll entries [] ↔
      (entries.filter fun rs => rs.service.fullName = name).getLast? = some rs := by
  induction entries using List.reverseRecOn with
  | nil => simp [ServiceMap.putAll]
  | append_singleton entries last ih =>
    rw [ServiceMap.putAll] at ih ⊢
    rw [List.foldl_append, List.foldl_cons, List.foldl_nil, ServiceMap.mem_put, ih,
      List.filter_append]
    by_cases hname : last.service.fullName = name
    · have hlast : [last].filter (fun rs => rs.service.fullName = name) = [last] := by
        simp [hname]
      rw [hlast, List.getLast?_append]
      simp [hname, eq_comm]
    · have hnone : [last].filter (fun rs => rs.service.fullName = name) = [] := by simp [hname]
      simp [hnone, Ne.symm hname]

end maps

section names

variable {history before after : List Event} {rs : RegisteredService} {m : MethodCall}

theorem RegisteredService.calls (h : rs.Full) :
    collect registeredCall rs.events = requestServiceMethodsCalls rs := by
  rw [events, ← h, List.range_eq_range']
  exact registered_calls rs.service rs.registeredMethods 0

theorem RegisteredService.mem_events (h : rs.Full) {i : Nat} (hi : i < rs.service.methods.length) :
    ∃ handling answer, .registerMethod rs.service i handling answer ∈ rs.events := by
  have hanswer : i < rs.registeredMethods.length := by rwa [h]
  refine ⟨getMethodPayloadHandling rs.service i, rs.registeredMethods[i], ?_⟩
  have hlength : i < rs.events.length := by
    rw [events, registered, List.length_zipWith, List.length_range]
    exact Nat.lt_min.mpr ⟨hi, hanswer⟩
  refine List.mem_iff_getElem.mpr ⟨i, hlength, ?_⟩
  simp [events, registered]

private theorem event_of_registeredCall {e : Event} (he : registeredCall e = some m) :
    ∃ handling, e = .registerMethod m.service m.methodIndex handling (some m.registeredMethod) := by
  cases e with
  | registerMethod service i handling answer =>
    cases answer with
    | none => simp at he
    | some handle =>
      obtain rfl : (⟨service, i, handle⟩ : MethodCall) = m := by simpa using he
      exact ⟨handling, rfl⟩
  | _ => simp at he

private theorem name_registered (h : AtEach NameTable history) {service : Service} {i : Nat}
    {handling : PayloadHandling} {answer : Option RegisteredMethod}
    (hmem : .registerMethod service i handling answer ∈ history) :
    service.methods[i]?.map Method.name ∈
      (collect registeredCall history).map MethodCall.name? := by
  obtain ⟨before, after, rfl⟩ := List.append_of_mem hmem
  cases answer with
  | none =>
    have hname := (h before _ after rfl).1.mp rfl
    rw [collect_append, List.map_append]
    exact List.mem_append_left _ hname
  | some handle => simp [MethodCall.name?]

theorem handles_nodup (h : AtEach NameTable history) :
    ((collect registeredCall history).map MethodCall.registeredMethod).Nodup := by
  induction history using List.reverseRecOn with
  | nil => simp
  | append_singleton history e ih =>
    have hbefore := ih h.of_append
    cases hcall : registeredCall e with
    | none => rwa [collect_snoc_none _ _ hcall]
    | some m =>
      obtain ⟨handling, rfl⟩ := event_of_registeredCall hcall
      have hfresh := (h history _ [] rfl).2 _ rfl
      have hmore : collect registeredCall (history ++ [.registerMethod m.service m.methodIndex
          handling (some m.registeredMethod)]) = collect registeredCall history ++ [m] := by
        simp
      rw [hmore, List.map_append]
      exact List.nodup_append.mpr ⟨hbefore, by simp, fun a ha b hb => by
        rintro rfl
        rw [List.map_singleton, List.mem_singleton] at hb
        exact hfresh (hb ▸ ha)⟩

private theorem name_of_handle (h : AtEach NameTable (before ++ (rs.events ++ after)))
    (hfull : rs.Full) (hm : m ∈ requestServiceMethodsCalls rs) :
    m.name? ∉ (collect registeredCall before).map MethodCall.name? := by
  rw [← RegisteredService.calls hfull] at hm
  obtain ⟨e, he, hcall⟩ := List.mem_filterMap.mp hm
  obtain ⟨handling, rfl⟩ := event_of_registeredCall hcall
  obtain ⟨first, rest, hsplit⟩ := List.append_of_mem he
  have hname := (h (before ++ first) (.registerMethod m.service m.methodIndex handling
    (some m.registeredMethod)) (rest ++ after) (by simp [hsplit])).1
  intro hold
  simp only [reduceCtorEq, false_iff] at hname
  refine hname ?_
  rw [collect_append, List.map_append]
  exact List.mem_append_left _ hold

end names

/-- The services that a server has registered, in turn, with an answer for each method. -/
structure Registry (services : List Service) (entries : List RegisteredService) : Prop where
  services : entries.map RegisteredService.service = services
  full : ∀ rs ∈ entries, rs.Full

section registries

variable {services : List Service} {entries : List RegisteredService} {order : ServiceMap}

theorem Registry.calls (h : Registry services entries) :
    collect registeredCall (entries.flatMap RegisteredService.events) =
      entries.flatMap requestServiceMethodsCalls := by
  rw [collect, List.filterMap_flatMap]
  exact List.flatMap_congr fun rs hrs => RegisteredService.calls (h.full rs hrs)

private theorem mem_requestMethodsCalls (horder : order.Perm (ServiceMap.putAll entries []))
    {m : MethodCall} :
    m ∈ requestMethodsCalls order ↔ ∃ rs, m ∈ requestServiceMethodsCalls rs ∧
      (entries.filter fun other => other.service.fullName = rs.service.fullName).getLast? =
        some rs := by
  simp only [requestMethodsCalls, List.mem_flatMap, horder.mem_iff, Prod.exists,
    ServiceMap.mem_putAll]
  constructor
  · rintro ⟨name, rs, hlast, hm⟩
    have hname : rs.service.fullName = name := by
      simpa using (List.mem_filter.mp (List.mem_of_getLast? hlast)).2
    exact ⟨rs, hm, by rw [hname]; exact hlast⟩
  · rintro ⟨rs, hm, hlast⟩
    exact ⟨_, rs, hlast, hm⟩

/-- The last service under its full name has its handles requested, and is the latest that
has a method of their names. -/
theorem Registry.requested {before after : List RegisteredService} {rs : RegisteredService}
    (h : Registry services (before ++ rs :: after))
    (horder : order.Perm (ServiceMap.putAll (before ++ rs :: after) []))
    (hlast : ∀ later ∈ after, later.service.fullName ≠ rs.service.fullName)
    {m : MethodCall} {name : StdString} (hm : m ∈ requestServiceMethodsCalls rs)
    (hname : m.name? = some name) :
    m ∈ requestMethodsCalls order ∧
      latest services m.service.fullName name = some m.service := by
  have hservice : m.service = rs.service := requestServiceMethodsCalls_service hm
  constructor
  · refine (mem_requestMethodsCalls horder).mpr ⟨rs, hm, filter_getLast? before (by simp) ?_⟩
    exact fun later hlater => by simpa using hlast later hlater
  · obtain ⟨method, hmethod, rfl⟩ := Option.map_eq_some_iff.mp hname
    rw [latest, ← h.services, List.map_append, List.map_cons, hservice]
    refine filter_getLast? _ ?_ ?_
    · simpa using ⟨method, hservice ▸ List.mem_of_getElem? hmethod, rfl⟩
    · rintro _ hlater
      obtain ⟨later, hmem, rfl⟩ := List.mem_map.mp hlater
      simp [hlast later hmem]

theorem Registry.new_name {before : List RegisteredService} {rs : RegisteredService}
    (h : Registry services before) (hfull : rs.Full)
    (hgrpc : AtEach NameTable (before.flatMap RegisteredService.events ++ rs.events))
    {method : Method} (hmethod : method ∈ rs.service.methods)
    (hnew : ∀ earlier ∈ services, ∀ m ∈ earlier.methods, m.name ≠ method.name) :
    ∃ m ∈ requestServiceMethodsCalls rs, m.name? = some method.name := by
  obtain ⟨i, hi, rfl⟩ := List.mem_iff_getElem.mp hmethod
  obtain ⟨handling, answer, hevent⟩ := RegisteredService.mem_events hfull hi
  have hregistered := name_registered hgrpc (List.mem_append_right _ hevent)
  rw [collect_append, h.calls, RegisteredService.calls hfull,
    List.getElem?_eq_getElem hi] at hregistered
  obtain ⟨m, hm, hname⟩ := List.mem_map.mp hregistered
  rcases List.mem_append.mp hm with hbefore | hafter
  · obtain ⟨earlier, hearlier, hm⟩ := List.mem_flatMap.mp hbefore
    obtain ⟨method, hmethod, heq⟩ := Option.map_eq_some_iff.mp hname
    have hmem : m.service ∈ services := by
      rw [requestServiceMethodsCalls_service hm, ← h.services]
      exact List.mem_map_of_mem hearlier
    exact absurd heq (hnew m.service hmem method (List.mem_of_getElem? hmethod))
  · exact ⟨m, hafter, hname⟩

theorem Registry.last {before after : List RegisteredService} {rs : RegisteredService}
    (h : Registry services (before ++ rs :: after))
    (hgrpc : AtEach NameTable ((before ++ rs :: after).flatMap RegisteredService.events))
    (hcond : Unrepeated services) {m : MethodCall} {name : StdString}
    (hm : m ∈ requestServiceMethodsCalls rs) (hname : m.name? = some name) :
    ∀ later ∈ after, later.service.fullName ≠ rs.service.fullName := by
  intro later hlater heq
  rw [List.flatMap_append, List.flatMap_cons] at hgrpc
  have hnew := name_of_handle hgrpc (h.full rs (by simp)) hm
  have hservices : services = before.map RegisteredService.service ++
      rs.service :: after.map RegisteredService.service := by
    rw [← h.services, List.map_append, List.map_cons]
  obtain ⟨method, hmethod, hmname⟩ := Option.map_eq_some_iff.mp hname
  rw [requestServiceMethodsCalls_service hm] at hmethod
  obtain ⟨_, hearlier, old, hold, heqname⟩ := hcond _ _ _ hservices
    ⟨later.service, List.mem_map_of_mem hlater, heq⟩ method (List.mem_of_getElem? hmethod)
  obtain ⟨earlier, hmem, rfl⟩ := List.mem_map.mp hearlier
  obtain ⟨i, hi, rfl⟩ := List.mem_iff_getElem.mp hold
  obtain ⟨handling, answer, hevent⟩ := RegisteredService.mem_events
    (h.full earlier (List.mem_append_left _ hmem)) hi
  have hregistered := name_registered hgrpc.of_append (List.mem_flatMap_of_mem hmem hevent)
  rw [List.getElem?_eq_getElem hi, Option.map_some, heqname, hmname, ← hname] at hregistered
  exact hnew hregistered

/-- A handle under a full name that is registered again is not requested. -/
theorem Registry.lost {before after : List RegisteredService} {rs : RegisteredService}
    (h : Registry services (before ++ rs :: after))
    (hgrpc : AtEach NameTable ((before ++ rs :: after).flatMap RegisteredService.events))
    (horder : order.Perm (ServiceMap.putAll (before ++ rs :: after) []))
    (hlater : ∃ later ∈ after, later.service.fullName = rs.service.fullName)
    {m m' : MethodCall} (hm : m ∈ requestServiceMethodsCalls rs)
    (hm' : m' ∈ requestMethodsCalls order) : m'.registeredMethod ≠ m.registeredMethod := by
  intro heq
  have hnodup := handles_nodup hgrpc
  rw [h.calls] at hnodup
  obtain ⟨last, hlast, hfilter⟩ := (mem_requestMethodsCalls horder).mp hm'
  have hentry : last ∈ before ++ rs :: after :=
    List.mem_of_mem_filter (List.mem_of_getLast? hfilter)
  obtain rfl : m' = m := List.inj_on_of_nodup_map hnodup
    (List.mem_flatMap_of_mem hentry hlast) (List.mem_flatMap_of_mem (by simp) hm) heq
  have hservice : last.service = rs.service :=
    (requestServiceMethodsCalls_service hlast).symm.trans (requestServiceMethodsCalls_service hm)
  obtain ⟨later, hmem, hname⟩ := hlater
  rw [hservice] at hfilter
  have hafter : last ∈ after := mem_of_filter_getLast? hmem (by simp [hname]) hfilter
  have hcalls := hnodup.of_map
  rw [List.flatMap_append, List.flatMap_cons] at hcalls
  exact List.disjoint_of_nodup_append hcalls.of_append_right hm
    (List.mem_flatMap_of_mem hafter hlast)

end registries

section runs

variable {grpc : Grpc} {s t : State} {ls : List Label}

private theorem run_registrations {services : List Service}
    (hrun : (machine grpc).run s (services.map .registerService ++ ls) = some t) :
    ∃ entries u, Registry services entries ∧ (machine grpc).run u ls = some t ∧
      u.serviceMap = ServiceMap.putAll entries s.serviceMap ∧
      u.log = s.log ++ entries.flatMap RegisteredService.events := by
  induction services generalizing s with
  | nil => exact ⟨[], s, ⟨rfl, by simp⟩, hrun, rfl, by simp⟩
  | cons service services ih =>
    obtain ⟨v, hstep, hrest⟩ := Machine.run_cons _ |>.mp hrun
    obtain ⟨answers, hlength, heq⟩ := registerService_eq grpc service s
    obtain rfl : registerService grpc service s = v := by
      have hcases : Steps grpc s (.registerService service) v := step_cases hstep
      cases hcases
      rfl
    obtain ⟨entries, u, ⟨hservices, hfull⟩, hu, hmap, hlog⟩ := ih hrest
    refine ⟨⟨service, answers⟩ :: entries, u, ⟨by simp [hservices], ?_⟩, hu, ?_, ?_⟩
    · rintro rs (_ | ⟨_, hrs⟩)
      · exact hlength
      · exact hfull rs hrs
    · rw [hmap, heq]
      rfl
    · rw [hlog, heq, List.flatMap_cons, List.append_assoc]
      rfl

private theorem run_requests {calls : List MethodCall} {turns : Nat}
    (hloop : s.loop = .requesting calls)
    (hrun : (machine grpc).run s (List.replicate turns .request) = some t)
    (hend : t.loop = .waiting) :
    ∃ more, t.log = s.log ++ more ∧ collect registeredCall more = [] ∧
      collect requestedCall more = calls := by
  induction turns generalizing s calls with
  | zero =>
    cases hrun
    simp [hloop] at hend
  | succ turns ih =>
    obtain ⟨u, hstep, hrest⟩ := Machine.run_cons _ |>.mp hrun
    have hcases : Steps grpc s .request u := step_cases hstep
    cases hcases with
    | requests m rest hs =>
      obtain ⟨more, hlog, hregistered, hrequested⟩ := ih rfl hrest
      obtain rfl : m :: rest = calls := by simpa [hs] using hloop
      obtain ⟨first, hfirst, hnone, hone⟩ : ∃ first,
          (serverMethodCallCqTag grpc m s).log = s.log ++ first ∧
            collect registeredCall first = [] ∧ collect requestedCall first = [m] := by
        refine ⟨_, rfl, ?_, ?_⟩ <;> split <;> split <;> simp
      refine ⟨first ++ more, ?_, by simp [hnone, hregistered], by simp [hone, hrequested]⟩
      rw [hlog, hfirst, List.append_assoc]
    | requested hs =>
      obtain rfl : [] = calls := by simpa [hs] using hloop
      cases turns with
      | zero =>
        cases hrest
        exact ⟨[], by simp⟩
      | succ turns =>
        obtain ⟨v, hv, -⟩ := Machine.run_cons _ |>.mp hrest
        simp [machine, step] at hv

/-- What a server has registered and requested when its services are registered in turn
and it is run. -/
theorem run_serves {services : List Service} {order : ServiceMap} {turns : Nat}
    (hrun : (machine grpc).run {}
      (services.map .registerService ++ .run order :: List.replicate turns .request) = some s)
    (hloop : s.loop = .waiting) :
    ∃ entries, Registry services entries ∧ order.Perm (ServiceMap.putAll entries []) ∧
      entries.flatMap RegisteredService.events <+: s.log ∧
      collect registeredCall s.log = entries.flatMap requestServiceMethodsCalls ∧
      collect requestedCall s.log = requestMethodsCalls order := by
  obtain ⟨entries, u, hregistry, hu, hmap, hlog⟩ := run_registrations hrun
  obtain ⟨v, hstep, hrequests⟩ := Machine.run_cons _ |>.mp hu
  have hcases : Steps grpc u (.run order) v := step_cases hstep
  cases hcases with
  | runs order hnew hopen horder =>
    obtain ⟨more, hmore, hregistered, hrequested⟩ := run_requests rfl hrequests hloop
    have hs : s.log = entries.flatMap RegisteredService.events ++ more := by
      rw [hmore, run, hlog, List.nil_append]
    have hsilent : collect requestedCall (entries.flatMap RegisteredService.events) = [] := by
      rw [collect, List.filterMap_flatMap, List.flatMap_eq_nil_iff]
      exact fun rs _ => registered_silent (by simp) rs.service _ _
    refine ⟨entries, hregistry, hmap ▸ horder, ⟨more, hs.symm⟩, ?_, ?_⟩
    · rw [hs, collect_append, hregistry.calls, hregistered, List.append_nil]
    · rw [hs, collect_append, hsilent, hrequested, List.nil_append]

end runs

/-- The exact condition under which registering again leaves each handle requested. -/
theorem reregistering_iff {grpc : Grpc} {services : List Service} {order : ServiceMap}
    {turns : Nat} {s : State}
    (hrun : (machine grpc).run {}
      (services.map .registerService ++ .run order :: List.replicate turns .request) = some s)
    (hloop : s.loop = .waiting) (hgrpc : AtEach NameTable s.log) :
    AllServed services s ↔ Unrepeated services := by
  obtain ⟨entries, hregistry, horder, ⟨more, hlog⟩, hregistered, hrequested⟩ :=
    run_serves hrun hloop
  have htable : AtEach NameTable (entries.flatMap RegisteredService.events) :=
    AtEach.of_append (hlog ▸ hgrpc)
  constructor
  · rintro hserved before service after hsplit ⟨later, hlater, hname⟩ method hmethod
    by_contra hnew
    push Not at hnew
    obtain ⟨first, rest, rfl, hfirst, hrest⟩ :=
      List.map_eq_append_iff.mp (hregistry.services.trans hsplit)
    obtain ⟨rs, last, rfl, rfl, hlast⟩ := List.map_eq_cons_iff.mp hrest
    obtain ⟨rs', hrs', rfl⟩ := List.mem_map.mp (hlast ▸ hlater)
    have hbefore : Registry before first :=
      ⟨hfirst, fun x hx => hregistry.full x (List.mem_append_left _ hx)⟩
    obtain ⟨m, hm, hmname⟩ := hbefore.new_name (hregistry.full rs (by simp))
      (AtEach.of_append (by simpa using htable)) hmethod hnew
    have hcall : m ∈ collect registeredCall s.log := by
      rw [hregistered]
      exact List.mem_flatMap_of_mem (by simp) hm
    obtain ⟨m', hm', heq, -⟩ := hserved m hcall method.name hmname
    exact hregistry.lost htable horder ⟨rs', hrs', hname⟩ hm (hrequested ▸ hm') heq
  · intro hcond m hm name hname
    rw [hregistered] at hm
    obtain ⟨rs, hrs, hcall⟩ := List.mem_flatMap.mp hm
    obtain ⟨before, after, rfl⟩ := List.append_of_mem hrs
    have hlast := hregistry.last htable hcond hcall hname
    obtain ⟨hmem, hlatest⟩ := hregistry.requested horder hlast hcall hname
    exact ⟨m, hrequested ▸ hmem, rfl, hlatest, hname⟩

/-- Three services, of which the second has a name that grpc knows from the first; the third
has the full name of the second. -/
def renewed : List Service :=
  [⟨0, [65], [⟨[117], false⟩]⟩, ⟨1, [66], [⟨[117], false⟩]⟩, ⟨2, [66], [⟨[115], true⟩]⟩]

def renewedGrpc : Grpc :=
  ⟨fun k => if k = 1 then none else some k, fun _ => true, fun _ => true⟩

def renewedOrder : ServiceMap :=
  [([65], ⟨⟨0, [65], [⟨[117], false⟩]⟩, [some 0]⟩), ([66], ⟨⟨2, [66], [⟨[115], true⟩]⟩, [some 2]⟩)]

theorem reregistering_iff_renewed :
    ∃ s, (machine renewedGrpc).run {} (renewed.map .registerService ++
        .run renewedOrder :: List.replicate 3 .request) = some s ∧ AllServed renewed s := by
  have hrun : (machine renewedGrpc).run {} (renewed.map .registerService ++
    .run renewedOrder :: List.replicate 3 .request) = some _ := rfl
  refine ⟨_, hrun, (reregistering_iff hrun rfl ?_).mpr ?_⟩
  · have hfirst := AtEach.nil.snoc (P := NameTable) (e := .registerMethod
      ⟨0, [65], [⟨[117], false⟩]⟩ 0 .readInitialByteBuffer (some 0)) (by simp [NameTable])
    have hsecond := hfirst.snoc (e := .registerMethod ⟨1, [66], [⟨[117], false⟩]⟩ 0
      .readInitialByteBuffer none) (by simp [NameTable, MethodCall.name?])
    have hthird := hsecond.snoc (e := .registerMethod ⟨2, [66], [⟨[115], true⟩]⟩ 0
      .none (some 2)) (by simp [NameTable, MethodCall.name?])
    exact @AtEach.append _ _ _ [_, _, _, _] hthird (by simp [NameTable])
  · intro before service after hsplit hlater method hmethod
    rcases before with _ | ⟨a, _ | ⟨b, _ | ⟨c, rest⟩⟩⟩ <;> simp [renewed] at hsplit
    · obtain ⟨rfl, rfl⟩ := hsplit
      simp at hlater
    · obtain ⟨rfl, rfl, rfl⟩ := hsplit
      obtain rfl := List.mem_singleton.mp hmethod
      exact ⟨_, List.mem_singleton_self _, _, List.mem_singleton_self _, rfl⟩
    · obtain ⟨rfl, rfl, rfl, rfl⟩ := hsplit
      simp at hlater

def echoTwiceGrpc : Grpc :=
  ⟨fun k => if k < 2 then some k else none, fun _ => true, fun _ => true⟩

/-- A service that is registered twice is not served. -/
theorem echo_twice_unserved :
    ∃ once twice,
      (machine echoTwiceGrpc).run {} ([echo].map .registerService ++
        .run [([69], ⟨echo, [some 0, some 1]⟩)] :: List.replicate 3 .request) = some once ∧
      (machine echoTwiceGrpc).run {} ([echo, echo].map .registerService ++
        .run [([69], ⟨echo, [none, none]⟩)] :: List.replicate 1 .request) = some twice ∧
      once.loop = .waiting ∧ twice.loop = .waiting ∧ AtEach NameTable twice.log ∧
      collect requestedCall once.log = [⟨echo, 0, 0⟩, ⟨echo, 1, 1⟩] ∧
      collect requestedCall twice.log = [] ∧ ¬ AllServed [echo, echo] twice := by
  refine ⟨_, _, rfl, rfl, rfl, rfl, ?_, rfl, rfl, fun h => ?_⟩
  · have hfirst := AtEach.nil.snoc (P := NameTable) (e := .registerMethod echo 0
      .readInitialByteBuffer (some 0)) (by simp [NameTable])
    have hsecond := hfirst.snoc (e := .registerMethod echo 1 .none (some 1))
      (by simp [NameTable, MethodCall.name?, echo])
    have hthird := hsecond.snoc (e := .registerMethod echo 0 .readInitialByteBuffer none)
      (by simp [NameTable, MethodCall.name?, echo])
    exact hthird.snoc (e := .registerMethod echo 1 .none none)
      (by simp [NameTable, MethodCall.name?, echo])
  · obtain ⟨m, hm, -⟩ := h ⟨echo, 0, 0⟩ (by decide) [117] rfl
    exact List.not_mem_nil hm

end GrpcCbCore.Server.Serving
