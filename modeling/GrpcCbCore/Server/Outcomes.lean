import GrpcCbCore.Common.CallOpData
import GrpcCbCore.Client.NullResponse
import GrpcCbCore.Server.ReplierOnce
import GrpcCbCore.Server.WriterProtocol

/-! What a server replies with or closes with, and what its client gets. -/
namespace GrpcCbCore.Server
open GrpcCbCore.Library

namespace ReplierImpl

def Pc.request? : Pc → Option Request
  | .idle => none
  | .store request | .start request => some request

def World.pending (w : World) : List Request := w.threads.filterMap Pc.request?

def requests (ls : List Label) : List Request :=
  ls.filterMap fun
    | .load _ request => some request
    | _ => none

section runs

variable {grpc : Nat → Bool} {w w' : World}

private theorem pending_of_getElem? {thread : Nat} {pc : Pc} {request : Request}
    (hpc : w.threads[thread]? = some pc) (hrequest : pc.request? = some request) :
    request ∈ w.pending :=
  List.mem_filterMap.mpr ⟨pc, List.mem_of_getElem? hpc, hrequest⟩

private theorem pending_set {impl : Impl} {thread : Nat} {pc : Pc} {request : Request}
    (hmem : request ∈ ({ impl := impl, threads := w.threads.set thread pc } : World).pending) :
    request ∈ w.pending ∨ pc.request? = some request := by
  obtain ⟨other, hother, hrequest⟩ := List.mem_filterMap.mp hmem
  rcases List.mem_or_eq_of_mem_set hother with hold | rfl
  · exact .inl (List.mem_filterMap.mpr ⟨other, hold, hrequest⟩)
  · exact .inr hrequest

private theorem step_replies {label : Label} (hstep : step grpc w label = some w') :
    w'.impl.sendInitMd = w.impl.sendInitMd ∧
    (∀ request ∈ w'.pending, request ∈ w.pending ∨ request ∈ requests [label]) ∧
    ∀ tag ∈ w'.replies, tag ∈ w.replies ∨
      ∃ request ∈ w.pending, tag = request.tag w.impl.sendInitMd := by
  cases label with
  | load thread request =>
    obtain ⟨-, rfl⟩ := step_load hstep
    refine ⟨rfl, fun other hmem => ?_, fun tag htag => .inl htag⟩
    rcases pending_set hmem with h | h
    · exact .inl h
    · cases hreplied : w.impl.replied <;> simp_all [load, Pc.request?, requests]
  | store thread =>
    obtain ⟨request, hpc, rfl⟩ := step_store hstep
    refine ⟨rfl, fun other hmem => .inl ?_, fun tag htag => .inl htag⟩
    rcases pending_set hmem with h | h
    · exact h
    · exact pending_of_getElem? hpc h
  | start thread =>
    obtain ⟨request, hpc, rfl⟩ := step_start hstep
    refine ⟨rfl, fun other hmem => .inl ?_, fun tag htag => ?_⟩
    · rcases pending_set hmem with h | h
      · exact h
      · simp [Pc.request?] at h
    · have hreplies : tag ∈ w.replies ∨ tag = request.tag w.impl.sendInitMd := by
        simpa [World.replies, start] using htag
      rcases hreplies with h | h
      · exact .inl h
      · exact .inr ⟨request, pending_of_getElem? hpc rfl, h⟩
  | complete index success =>
    obtain ⟨tag, call, hcall, rfl⟩ := step_complete hstep
    refine ⟨rfl, fun other hmem => .inl hmem, fun other hother => .inl ?_⟩
    simpa [World.replies, Call.complete_log hcall] using hother

theorem run_replies {ls : List Label} (hrun : (machine grpc).run w ls = some w') :
    ∀ tag ∈ w'.replies, tag ∈ w.replies ∨
      ∃ request, (request ∈ w.pending ∨ request ∈ requests ls) ∧
        tag = request.tag w.impl.sendInitMd := by
  induction ls generalizing w with
  | nil =>
    cases hrun
    exact fun tag htag => .inl htag
  | cons label ls ih =>
    obtain ⟨u, hstep, hrest⟩ := (machine grpc).run_cons.mp hrun
    obtain ⟨hmd, hpending, hreplies⟩ := step_replies hstep
    intro tag htag
    have hlabel : requests (label :: ls) = requests [label] ++ requests ls := by
      simp [requests, ← List.filterMap_append]
    rcases ih hrest tag htag with hold | ⟨request, hrequest, htag⟩
    · rcases hreplies tag hold with hold | ⟨request, hrequest, htag⟩
      · exact .inl hold
      · exact .inr ⟨request, .inl hrequest, htag⟩
    · refine .inr ⟨request, ?_, by rw [htag, hmd]⟩
      rw [hlabel, List.mem_append]
      rcases hrequest with hrequest | hrequest
      · rcases hpending request hrequest with h | h
        · exact .inl h
        · exact .inr (.inl h)
      · exact .inr (.inr hrequest)

end runs

end ReplierImpl

section carried

variable {md : Bool} {message : CodRecvMsg} {cod : CodClientRecvStatus} {status : Status}

theorem status?_of_mem {tag : CqTag} (hmem : .serverSendStatus status ∈ tag.ops) :
    tag.status? = some status := by
  cases tag <;> simp [CqTag.ops] at hmem
  case serverReplierReply msg md => cases md <;> simp [CqTag.status?, CqTag.ops, hmem]
  case serverReplierReplyError other md => cases md <;> simp [CqTag.status?, CqTag.ops, hmem]
  case serverWriterSendStatus other md => cases md <;> simp [hmem]

theorem carried_status {tag : CqTag} (hcarried : CarriesStatus tag.grpcOps cod)
    (htag : tag.status? = some status) :
    .sendStatusFromServer cod.statusCode cod.statusDetails =
      GrpcCbCore.serverSendStatus status {} := by
  obtain ⟨op, hop, hgrpc⟩ := List.mem_map.mp hcarried
  cases op with
  | serverSendStatus other =>
    obtain rfl : other = status := by
      simpa using (status?_of_mem hop).symm.trans htag
    exact hgrpc.symm
  | _ => simp [CallOp.grpcOp] at hgrpc

theorem status_survives_iff {tag : CqTag} (hcarried : CarriesStatus tag.grpcOps cod)
    (htag : tag.status? = some status) : cod.getStatus = status ↔ 0 ∉ status.details := by
  rw [getStatus_serverSendStatus (carried_status hcarried htag),
    ← stringFromCharPtr_cStr_eq_iff, stringFromCharPtr_cStr]
  constructor
  · exact fun h => congrArg Status.details h
  · intro h
    rw [h]

private theorem replyStr_survives {r : StdString}
    (hmessage : CarriesMessage (CqTag.serverReplierReply r md).grpcOps message)
    (hstatus : CarriesStatus (CqTag.serverReplierReply r md).grpcOps cod) (response : StdString)
    (c : Call Client.ServiceStub.Note) :
    Client.ServiceStub.getResponse (receivedFrom message cod) response c =
      (some (.OK, r), c) := by
  have hok : cod.getStatus = .OK :=
    (status_survives_iff hstatus (by cases md <;> rfl)).mpr (by simp [Status.OK])
  have hsent : sentMessage (CqTag.serverReplierReply r md).grpcOps = some (copyMsgStr r) := by
    cases md <;> rfl
  rw [CarriesMessage, hsent] at hmessage
  obtain ⟨buffer, hbuffer, hbytes⟩ := Option.map_eq_some_iff.mp hmessage
  simp [Client.ServiceStub.getResponse, receivedFrom, hok, hbuffer, getResultMsg_contents hbytes]

private theorem replyError_survives_iff (hfailed : status.ok = false)
    (hstatus : CarriesStatus (CqTag.serverReplierReplyError status md).grpcOps cod)
    (response : StdString) (c : Call Client.ServiceStub.Note) :
    ∃ got, (Client.ServiceStub.getResponse (receivedFrom message cod) response c).1 = some got ∧
      (got.1 = status ↔ 0 ∉ status.details) := by
  have htag : (CqTag.serverReplierReplyError status md).status? = some status := by
    cases md <;> rfl
  have hcode : cod.getStatus.ok = false := by
    rw [getStatus_serverSendStatus (carried_status hstatus htag)]
    exact hfailed
  rw [← status_survives_iff hstatus htag]
  simp [Client.ServiceStub.getResponse, receivedFrom, hcode]

/-- An OK "error" is the response that no client decodes without a message. -/
theorem replyError_OK_missing
    (hmessage : CarriesMessage (CqTag.serverReplierReplyError .OK md).grpcOps message)
    (hstatus : CarriesStatus (CqTag.serverReplierReplyError .OK md).grpcOps cod) :
    Missing (receivedFrom message cod) := by
  have hok : cod.getStatus = .OK :=
    (status_survives_iff hstatus (by cases md <;> rfl)).mpr (by simp [Status.OK])
  have hsent : sentMessage (CqTag.serverReplierReplyError .OK md).grpcOps = none := by
    cases md <;> rfl
  rw [CarriesMessage, hsent] at hmessage
  simpa [Missing, receivedFrom, hok] using hmessage

end carried

/-- What the client of a unary call gets of a reply: a response whole, and an error
whole just when its details have no zero in them. -/
def Survives (request : ReplierImpl.Request) (result : Option (Status × StdString)) : Prop :=
  match request with
  | .replyStr response => result = some (.OK, response)
  | .replyError status => status.ok = false →
      ∃ got, result = some got ∧ (got.1 = status ↔ 0 ∉ status.details)

/-- The exact condition of the outcomes' survival: of every reply in every run of a
replier, and of the status that every run of a writer ends with. -/
theorem outcomes_survive_iff (grpc : Nat → Bool) (n : Nat) :
    (∀ ls w, (ReplierImpl.machine grpc).run (ReplierImpl.initial n) ls = some w →
      ∀ tag ∈ w.replies, ∃ request ∈ ReplierImpl.requests ls,
        tag = request.tag (ReplierImpl.initial n).impl.sendInitMd ∧ ∀ message cod,
        CarriesMessage tag.grpcOps message → CarriesStatus tag.grpcOps cod → ∀ response c,
          Survives request
            (Client.ServiceStub.getResponse (receivedFrom message cod) response c).1) ∧
    (∀ ls w, (WriterImpl.machine grpc).run (WriterImpl.initial n) ls = some w →
      ∀ before tag accepted after, w.impl.call.log = before ++ .start tag accepted :: after →
        tag.status?.isSome = true →
        ∃ status, (collect WriterImpl.closeCall before).head? = some status ∧
          ∀ cod, CarriesStatus tag.grpcOps cod →
            (cod.getStatus = status ↔ 0 ∉ status.details)) := by
  constructor
  · intro ls w hrun tag htag
    rcases ReplierImpl.run_replies hrun tag htag with hold | ⟨request, hrequest, rfl⟩
    · simp [ReplierImpl.World.replies, ReplierImpl.initial] at hold
    · have hnone : (ReplierImpl.initial n).pending = [] := by
        simp [ReplierImpl.World.pending, ReplierImpl.initial, ReplierImpl.Pc.request?]
      refine ⟨request, by simpa [hnone] using hrequest, rfl, fun message cod hmessage hstatus => ?_⟩
      intro response c
      cases request with
      | replyStr r => exact congrArg Prod.fst (replyStr_survives hmessage hstatus response c)
      | replyError status =>
        exact fun hfailed => replyError_survives_iff hfailed hstatus response c
  · intro ls w hrun before tag accepted after hlog htag
    obtain ⟨l, -, h⟩ := WriterImpl.run_refines hrun
    obtain ⟨status, hstatus⟩ := Option.isSome_iff_exists.mp htag
    have hlaw := h.lawful before (.start tag accepted) after hlog
    have hclose := (hlaw.2.2.2.2.2 status hstatus).2
    exact ⟨status, hclose, fun cod hcarried => status_survives_iff hcarried hstatus⟩

/-- A reply with a zero byte; grpc brings it in two slices. -/
theorem outcomes_survive_iff_reply :
    Survives (.replyStr [7, 0, 7])
      (Client.ServiceStub.getResponse
        (receivedFrom ⟨some ⟨[⟨[7]⟩, ⟨[0, 7]⟩]⟩⟩ {}) [] {}).1 := by
  have hrun : (ReplierImpl.machine fun _ => true).run (ReplierImpl.initial 1)
      [.load 0 (.replyStr [7, 0, 7]), .store 0, .start 0] = some _ := rfl
  obtain ⟨request, hrequest, -, h⟩ := (outcomes_survive_iff _ _).1 _ _ hrun
    (.serverReplierReply [7, 0, 7] true) (by decide)
  obtain rfl : request = .replyStr [7, 0, 7] := by simpa [ReplierImpl.requests] using hrequest
  exact h _ _ rfl (by unfold CarriesStatus; decide) _ _

/-- An error whose details have a zero byte: the client gets what stands before it. -/
def cutStatus : Status := ⟨.internal, [65, 0, 66]⟩

theorem details_are_cut :
    ∃ w, (ReplierImpl.machine fun _ => true).run (ReplierImpl.initial 1)
        [.load 0 (.replyError cutStatus), .store 0, .start 0] = some w ∧
      w.replies = [.serverReplierReplyError cutStatus true] ∧
      CarriesMessage (CqTag.serverReplierReplyError cutStatus true).grpcOps {} ∧
      CarriesStatus (CqTag.serverReplierReplyError cutStatus true).grpcOps
        ⟨.internal, ⟨[65]⟩⟩ ∧
      ((Client.ServiceStub.getResponse (receivedFrom {} ⟨.internal, ⟨[65]⟩⟩) [] {}).1.map
        Prod.fst) = some ⟨.internal, [65]⟩ ∧
      ((Client.ServiceStub.getResponse (receivedFrom {} ⟨.internal, ⟨[65]⟩⟩) [] {}).1.map
        Prod.fst) ≠ some cutStatus :=
  ⟨_, rfl, rfl, rfl, by unfold CarriesStatus; decide, rfl, by decide⟩

end GrpcCbCore.Server
