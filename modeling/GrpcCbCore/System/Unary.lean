import GrpcCbCore.Client.StubRun
import GrpcCbCore.Library.Beside
import GrpcCbCore.Server.Outcomes

/-! Unary calls from end to end: the requests of a `ServiceStub` with the threads of its
`Run`, grpc, and at the server a `ServerReplier` for each call, which any threads may reply
through. -/
namespace GrpcCbCore.System.Unary
open GrpcCbCore.Library
open Client.ServiceStub (Note responseCbCall errorCbCall)
open Server.ReplierImpl (World)

abbrev State := Client.ServiceStub.Run.Stub × (Nat → World)

abbrev Label := Client.ServiceStub.Run.Label ⊕ Nat × Server.ReplierImpl.Label

/-- `client k` is what grpc answers to the start of request `k`, `server k` what it answers
to the replies of that call. -/
def machine (client : Nat → Bool) (server : Nat → Nat → Bool) : Machine State Label :=
  (Client.ServiceStub.Run.machine client).beside
    (Machine.each fun id => Server.ReplierImpl.machine (server id))

def initial (n : Nat) (threads : Nat → Nat) : State :=
  (Client.ServiceStub.Run.initial n, fun id => Server.ReplierImpl.initial (threads id))

def requestsOf (id : Nat) (ls : List Label) : List Server.ReplierImpl.Request :=
  Server.ReplierImpl.requests (Machine.labelsOf id (ls.filterMap Sum.getRight?))

def outcome : Server.ReplierImpl.Request → Received
  | .replyStr response => { recvBuf := some (.readable response) }
  | .replyError status => { status := ⟨status.code, status.details.takeWhile (· ≠ 0)⟩ }

/-- The server has sent this, and grpc has carried it. -/
def Replied (w : World) (received : Received) : Prop :=
  ∃ tag message cod, tag ∈ collect Event.started w.impl.call.log ∧
    CarriesMessage tag.grpcOps message ∧ CarriesStatus tag.grpcOps cod ∧
    received = receivedFrom message cod

/-- A batch that succeeds brings what the server of its call has replied, or an error of
grpc's own. -/
def Carried (own : Status → Prop) (s : State) : Label → Prop
  | .inl (.next _ id true received) =>
      (own received.status ∧ received.status.ok = false) ∨ Replied (s.2 id) received
  | _ => True

section replies

variable {w w' : World}

/-- A reply passes through grpc as its outcome. -/
theorem receivedFrom_reply {request : Server.ReplierImpl.Request} {md : Bool}
    {message : CodRecvMsg} {cod : CodClientRecvStatus}
    (hmessage : CarriesMessage (request.tag md).grpcOps message)
    (hstatus : CarriesStatus (request.tag md).grpcOps cod) :
    receivedFrom message cod = outcome request := by
  cases request with
  | replyStr response =>
    have hok : cod.getStatus = .OK :=
      (Server.status_survives_iff hstatus (by cases md <;> rfl)).mpr (by simp [Status.OK])
    have hsent : sentMessage (CqTag.serverReplierReply response md).grpcOps =
        some (copyMsgStr response) := by
      cases md <;> rfl
    rw [CarriesMessage, Server.ReplierImpl.Request.tag, hsent] at hmessage
    obtain ⟨buffer, hbuffer, hbytes⟩ := Option.map_eq_some_iff.mp hmessage
    have hread : buffer.readAll = ⟨response⟩ := by simpa using hbytes
    simp [receivedFrom, outcome, hbuffer, RawByteBuffer.contents, hread,
      stringFromCopiedSlice, hok]
  | replyError status =>
    have hsent : sentMessage (CqTag.serverReplierReplyError status md).grpcOps = none := by
      cases md <;> rfl
    have htag : (CqTag.serverReplierReplyError status md).status? = some status := by
      cases md <;> rfl
    rw [CarriesMessage, Server.ReplierImpl.Request.tag, hsent, Option.map_none,
      Option.map_eq_none_iff] at hmessage
    have hcarried := getStatus_serverSendStatus (Server.carried_status hstatus htag)
    simp [receivedFrom, outcome, hmessage, hcarried]

private theorem replier_log {grpc : Nat → Bool} {label : Server.ReplierImpl.Label}
    (hstep : Server.ReplierImpl.step grpc w label = some w') :
    w.impl.call.log <+: w'.impl.call.log := by
  cases label with
  | load thread request =>
    obtain ⟨-, rfl⟩ := Server.ReplierImpl.step_load hstep
    exact List.prefix_rfl
  | store thread =>
    obtain ⟨request, -, rfl⟩ := Server.ReplierImpl.step_store hstep
    exact List.prefix_rfl
  | start thread =>
    obtain ⟨request, -, rfl⟩ := Server.ReplierImpl.step_start hstep
    exact List.prefix_append _ _
  | complete index success =>
    obtain ⟨tag, call, hcall, rfl⟩ := Server.ReplierImpl.step_complete hstep
    rw [Call.complete_log hcall]
    exact List.prefix_append _ _

theorem Replied.later (h : w.impl.call.log <+: w'.impl.call.log) {received : Received}
    (hreplied : Replied w received) : Replied w' received := by
  obtain ⟨tag, message, cod, htag, hcarried⟩ := hreplied
  obtain ⟨more, hmore⟩ := h
  refine ⟨tag, message, cod, ?_, hcarried⟩
  rw [← hmore, collect_append]
  exact List.mem_append_left _ htag

theorem Replied.request {grpc : Nat → Bool} {n : Nat} {ls : List Server.ReplierImpl.Label}
    (hrun : (Server.ReplierImpl.machine grpc).run (Server.ReplierImpl.initial n) ls = some w)
    {received : Received} (h : Replied w received) :
    ∃ request ∈ Server.ReplierImpl.requests ls, received = outcome request ∧
      .start (request.tag true) true ∈ w.impl.call.log := by
  obtain ⟨tag, message, cod, htag, hmessage, hstatus, rfl⟩ := h
  obtain ⟨e, he, hstarted⟩ := List.mem_filterMap.mp htag
  obtain rfl : e = .start tag true := by
    rcases e with ⟨other, _ | _⟩ | _ | _ <;> simp_all
  have hattempt : tag ∈ w.replies := List.mem_filterMap.mpr ⟨_, he, rfl⟩
  rcases Server.ReplierImpl.run_replies hrun tag hattempt with hold | ⟨request, hrequest, rfl⟩
  · simp [Server.ReplierImpl.World.replies, Server.ReplierImpl.initial] at hold
  · have hnone : (Server.ReplierImpl.initial n).pending = [] := by
      simp [Server.ReplierImpl.World.pending, Server.ReplierImpl.initial,
        Server.ReplierImpl.Pc.request?]
    exact ⟨request, by simpa [hnone] using hrequest, receivedFrom_reply hmessage hstatus, he⟩

end replies

section requests

open Client.ServiceStub.Run (Stub Request errorOf step_cases)

private theorem call_log (r : Request) (accepted : Bool) {tag : CqTag} {success : Bool}
    {received : Received} : .complete tag success received ∉ (r.call accepted).log := by
  cases accepted with
  | true => simp [Client.ServiceStub.Run.call_true]
  | false =>
    simp [Request.call, Client.ServiceStub.asyncRequest, Call.startBatch,
      Client.ServiceStub.callErrorCb_eq]

private theorem mem_of_complete (tag : CqTag) {tag' : CqTag} {success success' : Bool}
    {received received' : Received} {result : Status} {call : Call Note}
    (hmem : .complete tag' success' received' ∈
      (Client.ServiceStub.Run.complete tag success received result call).log) :
    .complete tag' success' received' ∈ call.log := by
  cases tag with
  | clientAsyncCall request responseCb errorCb =>
    obtain ⟨ns, hns⟩ := Client.ServiceStub.doComplete_notes responseCb errorCb
      ⟨0, success, received, result⟩ call
    simpa [Client.ServiceStub.Run.complete, hns] using hmem
  | _ => exact hmem

private theorem step_completes {grpc : Nat → Bool} {s t : Stub}
    {label : Client.ServiceStub.Run.Label}
    (hstep : Client.ServiceStub.Run.step grpc s label = some t) {id : Nat} {call : Call Note}
    (hcall : t.calls[id]? = some call) {tag : CqTag} {received : Received}
    (hmem : .complete tag true received ∈ call.log) :
    (∃ old, s.calls[id]? = some old ∧ .complete tag true received ∈ old.log) ∨
      ∃ thread, label = .next thread id true received := by
  have hcompleted {k : Nat} {tag' : CqTag} {success : Bool} {received' : Received}
      {result : Status} (hcall : (s.calls.modify k
        (Client.ServiceStub.Run.complete tag' success received' result))[id]? = some call) :
      ∃ old, s.calls[id]? = some old ∧ .complete tag true received ∈ old.log := by
    rw [List.getElem?_modify, Option.map_eq_map, Option.map_eq_some_iff] at hcall
    obtain ⟨old, hold, rfl⟩ := hcall
    refine ⟨old, hold, ?_⟩
    split at hmem
    · exact mem_of_complete _ hmem
    · exact hmem
  cases step_cases hstep with
  | asyncRequest r =>
    have hold : s.calls[id]? = some call ∨ ∃ accepted, call = r.call accepted := by
      simp only [Client.ServiceStub.Run.asyncRequest] at hcall
      grind
    rcases hold with hold | ⟨accepted, rfl⟩
    · exact .inl ⟨call, hold, hmem⟩
    · exact absurd hmem (call_log r accepted)
  | next thread k success received' hpc hold hcomplete =>
    by_cases hid : k = id
    · subst hid
      rw [List.getElem?_set_self (List.getElem?_eq_some_iff.mp hold).1] at hcall
      obtain rfl := Option.some.inj hcall
      rw [Call.complete_log hcomplete, List.mem_append, List.mem_singleton] at hmem
      rcases hmem with hmem | heq
      · exact .inl ⟨_, hold, hmem⟩
      · obtain ⟨-, rfl, rfl⟩ := Event.complete.inj heq
        exact .inr ⟨thread, rfl⟩
    · rw [List.getElem?_set_ne hid] at hcall
      exact .inl ⟨call, hcall, hmem⟩
  | doComplete thread result hpc => exact .inl (hcompleted hcall)
  | crash thread result hpc => exact .inl (hcompleted hcall)
  | _ => exact .inl ⟨call, hcall, hmem⟩

end requests

def Fed (own : Status → Prop) (s : State) : Prop :=
  ∀ id call, s.1.calls[id]? = some call → ∀ tag received, .complete tag true received ∈ call.log →
    (own received.status ∧ received.status.ok = false) ∨ Replied (s.2 id) received

private theorem step_fed {own : Status → Prop} {client : Nat → Bool} {server : Nat → Nat → Bool}
    {s t : State} {label : Label} (h : Fed own s) (hcarried : Carried own s label)
    (hstep : (machine client server).step s label = some t) : Fed own t := by
  intro id call hcall tag received hmem
  cases label with
  | inl label =>
    obtain ⟨hstep, hsame⟩ := Machine.beside_inl hstep
    rw [hsame]
    rcases step_completes hstep hcall hmem with ⟨old, hold, hmem⟩ | ⟨thread, rfl⟩
    · exact h id old hold tag received hmem
    · exact hcarried
  | inr label =>
    obtain ⟨hstep, hsame⟩ := Machine.beside_inr hstep
    obtain ⟨hreplier, hother⟩ := Machine.each_step hstep
    rw [hsame] at hcall
    refine (h id call hcall tag received hmem).imp_right fun hreplied => ?_
    by_cases hid : id = label.1
    · subst hid
      exact hreplied.later (replier_log hreplier)
    · rwa [hother id hid]

/-- Where an error comes from that the client is told. -/
inductive Cause (own : Status → Prop) (requests : List Server.ReplierImpl.Request)
    (r : Client.ServiceStub.Run.Request) (call : Call Note) : Status → Prop
  | refused (h : .start r.tag false ∈ call.log) :
      Cause own requests r call (.internalError (lit "Failed to async request."))
  | failed {received : Received} (h : .complete r.tag false received ∈ call.log) :
      Cause own requests r call (.internalError (lit "ClientAsyncCallCqTag failed."))
  | grpc {status : Status} (h : own status) : Cause own requests r call status
  | replied {status : Status} (h : .replyError status ∈ requests) (hfailed : status.ok = false) :
      Cause own requests r call ⟨status.code, status.details.takeWhile (· ≠ 0)⟩
  | responseCb {status : Status} (h : .note (.responseCbReturns status) ∈ call.log) :
      Cause own requests r call status

/-- What the client of a call is told, and by whom. -/
structure Answered (own : Status → Prop) (requests : List Server.ReplierImpl.Request) (w : World)
    (r : Client.ServiceStub.Run.Request) (call : Call Note) : Prop where
  one_response : (collect responseCbCall call.log).length ≤ 1
  one_error : (collect errorCbCall call.log).length ≤ 1
  response : ∀ resp ∈ collect responseCbCall call.log, .replyStr resp ∈ requests ∧
    .start (.serverReplierReply resp true) true ∈ w.impl.call.log
  error : ∀ status ∈ collect errorCbCall call.log, Cause own requests r call status

section answers

open Client.ServiceStub.Run (Request errorOf)

variable {own : Status → Prop} {requests : List Server.ReplierImpl.Request} {w : World}
  {r : Request} {call : Call Note} {success : Bool} {received : Received}

def Explained (own : Status → Prop) (requests : List Server.ReplierImpl.Request) (w : World)
    (received : Received) : Prop :=
  (own received.status ∧ received.status.ok = false) ∨
    ∃ request ∈ requests, received = outcome request ∧
      .start (request.tag true) true ∈ w.impl.call.log

private theorem errorOf_cause (hcomplete : .complete r.tag success received ∈ call.log)
    (hexplained : success = true → Explained own requests w received) {status : Status}
    (herror : errorOf success received = some status) : Cause own requests r call status := by
  cases success with
  | false =>
    obtain rfl := Option.some.inj herror
    exact .failed hcomplete
  | true =>
    rcases hexplained rfl with ⟨hown, hbad⟩ | ⟨request, hrequest, rfl, -⟩
    · obtain rfl : received.status = status := by simpa [errorOf, hbad] using herror
      exact .grpc hown
    · cases request with
      | replyStr response => simp [errorOf, outcome] at herror
      | replyError error =>
        have hsame : (outcome (.replyError error)).status.ok = error.ok := rfl
        have hnone : (outcome (.replyError error)).recvBuf = none := rfl
        cases hok : error.ok with
        | false =>
          rw [hok] at hsame
          obtain rfl : (outcome (.replyError error)).status = status := by
            simpa [errorOf, hsame] using herror
          exact .replied hrequest hok
        | true => simp [errorOf, hsame, hok, hnone] at herror

private theorem errorCb_mem {status : Status} (h : status ∈ collect errorCbCall call.log) :
    .note (.errorCb status) ∈ call.log := by
  obtain ⟨e, he, hnote⟩ := List.mem_filterMap.mp h
  rcases e with _ | _ | ⟨_ | _ | _ | _⟩ <;> simp_all

private theorem answered_completes (r : Request) (success : Bool) (received : Received)
    (result : Status) : .complete r.tag success received ∈
      (r.answered success received result).log := by
  obtain ⟨ns, hns⟩ := Client.ServiceStub.doComplete_notes r.responseCb r.errorCb
    ⟨0, success, received, result⟩ (r.taken success received)
  rw [Request.answered, hns]
  simp [Request.taken]

private theorem answered_explained (hexplained : success = true → Explained own requests w received)
    (hreturns : ¬ Client.ServiceStub.Run.Crashes success received) (result : Status) :
    Answered own requests w r (r.answered success received result) := by
  have htold := Client.ServiceStub.Run.answered_told r hreturns result
  have hcomplete := answered_completes r success received result
  refine ⟨htold.one_response, htold.one_error, fun resp hresp => ?_, fun status hstatus => ?_⟩
  · obtain ⟨received', hmem, hok, hbuf⟩ := htold.own resp hresp
    have htaken : .complete r.tag true received' ∈ (r.taken success received).log :=
      mem_of_complete r.tag hmem
    obtain ⟨rfl, rfl⟩ : true = success ∧ received' = received := by
      simpa [Request.taken] using htaken
    rcases hexplained rfl with ⟨-, hbad⟩ | ⟨request, hrequest, rfl, hstart⟩
    · simp [hok] at hbad
    · cases request with
      | replyStr response =>
        obtain rfl : response = resp := by simpa [outcome] using hbuf
        exact ⟨hrequest, hstart⟩
      | replyError error => simp [outcome] at hbuf
  · have hnote := errorCb_mem hstatus
    rcases Client.ServiceStub.Run.doComplete_calls r.responseCb r.errorCb success received result
        (r.taken success received) hreturns with
      ⟨error, herror, heq⟩ | ⟨-, heq⟩ | ⟨cb, bytes, -, -, -, -, heq⟩
    · obtain rfl : error = status := by
        rw [Request.answered, heq] at hnote
        cases hcb : r.errorCb with
        | none => simp [Request.taken, hcb] at hnote
        | some cb => simpa [Request.taken, hcb, eq_comm] using hnote
      exact errorOf_cause hcomplete hexplained herror
    · rw [Request.answered, heq] at hnote
      simp [Request.taken] at hnote
    · have hreturns : .note (.responseCbReturns result) ∈
          (r.answered success received result).log := by
        simp [Request.answered, heq]
      obtain rfl : result = status := by
        rw [Request.answered, heq] at hnote
        cases hok : result.ok with
        | true => simp [Request.taken, hok] at hnote
        | false =>
          cases hcb : r.errorCb with
          | none => simp [Request.taken, hok, hcb] at hnote
          | some cb => simpa [Request.taken, hok, hcb, eq_comm] using hnote
      exact .responseCb hreturns

private theorem refused_answered : Answered own requests w r (r.call false) := by
  have htold := Client.ServiceStub.Run.refused_told r
  have hlog : (r.call false).log = .start r.tag false ::
      r.errorCb.toList.map fun _ =>
        .note (.errorCb (.internalError (lit "Failed to async request."))) := by
    cases hcb : r.errorCb <;>
      simp [Request.call, Client.ServiceStub.asyncRequest, Call.startBatch, Request.tag,
        Client.ServiceStub.callErrorCb, hcb]
  refine ⟨htold.one_response, htold.one_error, fun resp hresp => ?_, fun status hstatus => ?_⟩
  · obtain ⟨received, hmem, -⟩ := htold.own resp hresp
    exact absurd hmem (call_log r false)
  · have hnote := errorCb_mem hstatus
    obtain rfl : status = .internalError (lit "Failed to async request.") := by
      rw [hlog] at hnote
      cases hcb : r.errorCb with
      | none => simp [hcb] at hnote
      | some cb => simpa [hcb] using hnote
    exact .refused (by simp [hlog])

private theorem silent_answered (hresponse : collect responseCbCall call.log = [])
    (herror : collect errorCbCall call.log = []) : Answered own requests w r call := by
  constructor <;> simp [hresponse, herror]

end answers

/-- Every request has a call, and its client is told what the replies explain. -/
theorem run_answered {own : Status → Prop} {client : Nat → Bool} {server : Nat → Nat → Bool}
    {n : Nat} {threads : Nat → Nat} {ls : List Label} {s : State}
    (hrun : (machine client server).run (initial n threads) ls = some s)
    (hcarried : (machine client server).Along (Carried own) (initial n threads) ls)
    {id : Nat} {r : Client.ServiceStub.Run.Request} (hasked : s.1.asked[id]? = some r) :
    ∃ call, s.1.calls[id]? = some call ∧
      Answered own (requestsOf id ls) (s.2 id) r call := by
  obtain ⟨hclient, hservers⟩ := Machine.beside_run hrun
  have hserver := Machine.each_run hservers id
  have hfed : Fed own s := Machine.invariant_along (M := machine client server) (P := Carried own)
    (I := Fed own) (fun _ _ _ h hcarried hstep => step_fed h hcarried hstep)
    (by simp [Fed, initial, Client.ServiceStub.Run.initial]) hcarried hrun
  have hexplained {call : Call Note} (hcall : s.1.calls[id]? = some call) {tag : CqTag}
      {received : Received} (hmem : .complete tag true received ∈ call.log) :
      Explained own (requestsOf id ls) (s.2 id) received :=
    (hfed id call hcall tag received hmem).imp_right (Replied.request hserver)
  have htold {r : Client.ServiceStub.Run.Request} {success : Bool} {received : Received}
      {result : Status} (hreturns : ¬ Client.ServiceStub.Run.Crashes success received)
      (hcall : s.1.calls[id]? = some (r.answered success received result)) :
      Answered own (requestsOf id ls) (s.2 id) r (r.answered success received result) := by
    refine answered_explained (fun hsuccess => ?_) hreturns result
    subst hsuccess
    exact hexplained hcall (answered_completes r true received result)
  have hstory := Client.ServiceStub.Run.run_orderly hclient id
  rw [hasked] at hstory
  generalize hcall : s.1.calls[id]? = call at hstory
  generalize Custody.life id s.1.log = life at hstory
  generalize Client.ServiceStub.Run.hands id s.1.threads = holders at hstory
  cases hstory with
  | refused r => exact ⟨_, rfl, refused_answered⟩
  | waits r =>
    exact ⟨_, rfl, silent_answered (by simp [Client.ServiceStub.Run.call_true])
      (by simp [Client.ServiceStub.Run.call_true])⟩
  | taken r success received =>
    exact ⟨_, rfl, silent_answered (by simp [Client.ServiceStub.Run.Request.taken])
      (by simp [Client.ServiceStub.Run.Request.taken])⟩
  | crashed r success received result hcrashes =>
    rw [Client.ServiceStub.Run.answered_crashed r hcrashes]
    exact ⟨_, rfl, silent_answered (by simp [Client.ServiceStub.Run.Request.taken])
      (by simp [Client.ServiceStub.Run.Request.taken])⟩
  | answered r success received result hreturns => exact ⟨_, rfl, htold hreturns hcall⟩
  | finished r success received result hreturns => exact ⟨_, rfl, htold hreturns hcall⟩

/-- Over any number of calls at once, any threads in `Run` and at each replier: a response
that a client hears is one that its own call was replied with, and an error has one of these
causes; and if no load of `replied_` of a call finds another before its store, the response
is the only reply. -/
theorem answers_are_replies {own : Status → Prop} {client : Nat → Bool}
    {server : Nat → Nat → Bool} {n : Nat} {threads : Nat → Nat} {ls : List Label} {s : State}
    (hrun : (machine client server).run (initial n threads) ls = some s)
    (hcarried : (machine client server).Along (Carried own) (initial n threads) ls)
    {id : Nat} {r : Client.ServiceStub.Run.Request} (hasked : s.1.asked[id]? = some r) :
    ∃ call, s.1.calls[id]? = some call ∧ Answered own (requestsOf id ls) (s.2 id) r call ∧
      ((Server.ReplierImpl.machine (server id)).Along Server.ReplierImpl.Alone
          (Server.ReplierImpl.initial (threads id))
          (Machine.labelsOf id (ls.filterMap Sum.getRight?)) →
        ∀ resp ∈ collect responseCbCall call.log,
          (s.2 id).replies = [.serverReplierReply resp true]) := by
  obtain ⟨-, hservers⟩ := Machine.beside_run hrun
  have hserver := Machine.each_run hservers id
  obtain ⟨call, hcall, hanswered⟩ := run_answered hrun hcarried hasked
  refine ⟨call, hcall, hanswered, fun halone resp hresp => ?_⟩
  have hone := (Server.ReplierImpl.alone_single halone hserver).passed_le
  have hreply : .serverReplierReply resp true ∈ (s.2 id).replies :=
    List.mem_filterMap.mpr ⟨_, (hanswered.response resp hresp).2, rfl⟩
  obtain ⟨tag, htag⟩ := List.length_eq_one_iff.mp
    (Nat.le_antisymm hone (List.length_pos_of_mem hreply))
  rw [htag, List.mem_singleton] at hreply
  rw [htag, hreply]

/-- Two calls at once. The first is replied to, and an error comes too late; the second is
still to be replied an error. -/
def twoCalls : List Label :=
  [.inl (.asyncRequest ⟨[1], some 1, some 2⟩), .inl (.asyncRequest ⟨[2], some 3, some 4⟩),
    .inr (1, .load 0 (.replyError ⟨.notFound, [7]⟩)), .inr (0, .load 0 (.replyStr [3])),
    .inr (0, .store 0), .inr (0, .load 1 (.replyError ⟨.unknown, []⟩)), .inr (0, .start 0),
    .inl (.run 0), .inl (.next 0 0 true { recvBuf := some (.readable [3]) }),
    .inl (.doComplete 0 .OK)]

theorem answers_are_replies_twoCalls :
    ∃ s, (machine (fun _ => true) fun _ _ => true).run (initial 1 fun _ => 2) twoCalls = some s ∧
      ∃ call, s.1.calls[0]? = some call ∧ collect responseCbCall call.log = [[3]] ∧
        (s.2 0).replies = [.serverReplierReply [3] true] := by
  have hrun : (machine (fun _ => true) fun _ _ => true).run (initial 1 fun _ => 2) twoCalls =
      some _ := rfl
  have hcarried : (machine (fun _ => true) fun _ _ => true).Along (Carried fun _ => False)
      (initial 1 fun _ => 2) twoCalls := by
    rw [twoCalls]
    iterate 10 rw [Machine.along_cons rfl]
    refine ⟨trivial, trivial, trivial, trivial, trivial, trivial, trivial, trivial,
      .inr ⟨.serverReplierReply [3] true, ⟨some ⟨[⟨[3]⟩]⟩⟩, {}, by decide, rfl, ?_, rfl⟩, trivial,
      Machine.along_nil _ _⟩
    unfold CarriesStatus
    decide
  obtain ⟨call, hcall, hanswered, honly⟩ := @answers_are_replies _ _ _ _ _ _ _ hrun hcarried 0 _ rfl
  cases hcall
  refine ⟨_, hrun, _, rfl, rfl, honly ?_ [3] (by decide)⟩
  have hlabels : Machine.labelsOf 0 (twoCalls.filterMap Sum.getRight?) =
    [.load 0 (.replyStr [3]), .store 0, .load 1 (.replyError ⟨.unknown, []⟩), .start 0] := rfl
  rw [hlabels, Machine.along_cons rfl, Machine.along_cons rfl, Machine.along_cons rfl,
    Machine.along_cons rfl]
  refine ⟨fun _ request => ?_, trivial, fun hopen => ?_, trivial, Machine.along_nil _ _⟩
  · simp [Server.ReplierImpl.initial]
  · cases hopen

end GrpcCbCore.System.Unary
