import GrpcCbCore.Client.NullResponse
import GrpcCbCore.Library.Custody
import GrpcCbCore.Library.Progress

/-! The asynchronous calls of a `ServiceStub` and the threads that are in its `Run`. They
share one completion queue. What a callback asks of the stub is a step of its own. -/
namespace GrpcCbCore.Client.ServiceStub.Run
open GrpcCbCore.Library

structure Request where
  request : StdString
  responseCb : Callback
  errorCb : Callback
  deriving DecidableEq, Repr

/-- Where a thread is: outside `Run`, in `Next`, before or behind the `DoComplete` of a tag,
in one that will not return, or behind `Run`. -/
inductive Pc where
  | outside
  | next
  | doComplete (id : Nat) (tag : CqTag) (success : Bool) (received : Received)
  | delete (id : Nat)
  | crashed (id : Nat)
  | returned
  deriving DecidableEq, Repr

def Pc.isCrashed : Pc → Bool
  | .crashed _ => true
  | _ => false

/-- The call of each request, and the life of the tag that was made for it. -/
structure Stub where
  asked : List Request := []
  calls : List (Call Note) := []
  threads : List Pc
  queueShutdown : Bool := false
  log : List (Nat × Stage) := []

/-- Behind `Shutdown` grpc has no tag left to return. -/
def Stub.drained (s : Stub) : Bool :=
  s.queueShutdown && s.calls.all fun call => call.outstanding.isEmpty

/-- A crash of one thread is the end of all. -/
def Stub.crashed (s : Stub) : Bool := s.threads.any Pc.isCrashed

def Request.call (accepted : Bool) (r : Request) : Call Note :=
  ServiceStub.asyncRequest (fun _ => accepted) r.request r.responseCb r.errorCb

/-- `AsyncRequest`: a drained queue takes no batch. -/
def asyncRequest (grpc : Nat → Bool) (r : Request) (s : Stub) : Stub :=
  let accepted := grpc s.calls.length && !s.drained
  let id := s.calls.length
  { s with
    asked := s.asked ++ [r]
    calls := s.calls ++ [r.call accepted]
    log := s.log ++
      if accepted then [(id, .made), (id, .handed true)]
      else [(id, .made), (id, .handed false), (id, .deleted)] }

/-- The `DoComplete` of a stub's tag reads the null response of an OK status. -/
def Crashes (success : Bool) (received : Received) : Prop :=
  success = true ∧ Missing received

instance (success : Bool) (received : Received) : Decidable (Crashes success received) :=
  inferInstanceAs (Decidable (success = true ∧ Missing received))

def complete (tag : CqTag) (success : Bool) (received : Received) (result : Status)
    (call : Call Note) : Call Note :=
  match tag with
  | .clientAsyncCall _ responseCb errorCb =>
      doComplete responseCb errorCb success received result call
  | _ => call

/-- `result` is what the response callback returns if it is called. -/
inductive Label where
  | asyncRequest (r : Request)
  | shutdown
  | run (thread : Nat)
  | next (thread id : Nat) (success : Bool) (received : Received)
  | nextShutdown (thread : Nat)
  | doComplete (thread : Nat) (result : Status)
  | delete (thread : Nat)
  deriving DecidableEq, Repr

def step (grpc : Nat → Bool) (s : Stub) (label : Label) : Option Stub :=
  if s.crashed then none
  else
    match label with
    | .asyncRequest r => some (asyncRequest grpc r s)
    | .shutdown => some { s with queueShutdown := true }
    | .run thread =>
        match s.threads[thread]? with
        | some .outside | some .returned => some { s with threads := s.threads.set thread .next }
        | _ => none
    | .next thread id success received =>
        match s.threads[thread]?, s.calls[id]? with
        | some .next, some call =>
            match call.complete 0 success received with
            | none => none
            | some (tag, call) => some { s with
                calls := s.calls.set id call
                threads := s.threads.set thread (.doComplete id tag success received)
                log := s.log ++ [(id, .returned)] }
        | _, _ => none
    | .nextShutdown thread =>
        match s.threads[thread]? with
        | some .next =>
            if s.drained then some { s with threads := s.threads.set thread .returned } else none
        | _ => none
    | .doComplete thread result =>
        match s.threads[thread]? with
        | some (.doComplete id tag success received) =>
            let s := { s with calls := s.calls.modify id (complete tag success received result) }
            if Crashes success received then
              some { s with threads := s.threads.set thread (.crashed id) }
            else some { s with
              threads := s.threads.set thread (.delete id)
              log := s.log ++ [(id, .used)] }
        | _ => none
    | .delete thread =>
        match s.threads[thread]? with
        | some (.delete id) => some { s with
            threads := s.threads.set thread .next
            log := s.log ++ [(id, .deleted)] }
        | _ => none

def machine (grpc : Nat → Bool) : Machine Stub Label where
  step := step grpc

def initial (n : Nat) : Stub where
  threads := List.replicate n .outside

inductive Steps (grpc : Nat → Bool) (s : Stub) : Label → Stub → Prop
  | asyncRequest (r : Request) : Steps grpc s (.asyncRequest r) (asyncRequest grpc r s)
  | shutdown : Steps grpc s .shutdown { s with queueShutdown := true }
  | run (thread : Nat) {pc : Pc} (hpc : s.threads[thread]? = some pc)
      (hidle : pc = .outside ∨ pc = .returned) :
      Steps grpc s (.run thread) { s with threads := s.threads.set thread .next }
  | next (thread id : Nat) (success : Bool) (received : Received) {call call' : Call Note}
      {tag : CqTag} (hpc : s.threads[thread]? = some .next) (hcall : s.calls[id]? = some call)
      (hcomplete : call.complete 0 success received = some (tag, call')) :
      Steps grpc s (.next thread id success received) { s with
        calls := s.calls.set id call'
        threads := s.threads.set thread (.doComplete id tag success received)
        log := s.log ++ [(id, .returned)] }
  | nextShutdown (thread : Nat) (hpc : s.threads[thread]? = some .next)
      (hdrained : s.drained = true) :
      Steps grpc s (.nextShutdown thread) { s with threads := s.threads.set thread .returned }
  | doComplete (thread : Nat) (result : Status) {id : Nat} {tag : CqTag} {success : Bool}
      {received : Received}
      (hpc : s.threads[thread]? = some (.doComplete id tag success received))
      (hreturns : ¬ Crashes success received) :
      Steps grpc s (.doComplete thread result) { s with
        calls := s.calls.modify id (complete tag success received result)
        threads := s.threads.set thread (.delete id)
        log := s.log ++ [(id, .used)] }
  | crash (thread : Nat) (result : Status) {id : Nat} {tag : CqTag} {success : Bool}
      {received : Received}
      (hpc : s.threads[thread]? = some (.doComplete id tag success received))
      (hcrashes : Crashes success received) :
      Steps grpc s (.doComplete thread result) { s with
        calls := s.calls.modify id (complete tag success received result)
        threads := s.threads.set thread (.crashed id) }
  | delete (thread : Nat) {id : Nat} (hpc : s.threads[thread]? = some (.delete id)) :
      Steps grpc s (.delete thread) { s with
        threads := s.threads.set thread .next
        log := s.log ++ [(id, .deleted)] }

theorem step_cases {grpc : Nat → Bool} {s t : Stub} {label : Label}
    (hstep : step grpc s label = some t) : Steps grpc s label t := by
  unfold step at hstep
  split at hstep
  · cases hstep
  cases label with
  | asyncRequest r =>
    cases hstep
    exact .asyncRequest r
  | shutdown =>
    cases hstep
    exact .shutdown
  | run thread =>
    dsimp only at hstep
    split at hstep
    · next hpc =>
      cases hstep
      exact .run thread hpc (.inl rfl)
    · next hpc =>
      cases hstep
      exact .run thread hpc (.inr rfl)
    · cases hstep
  | next thread id success received =>
    dsimp only at hstep
    split at hstep
    · next call hpc hcall =>
      cases hcomplete : call.complete 0 success received with
      | none => simp [hcomplete] at hstep
      | some found =>
        obtain ⟨tag, call'⟩ := found
        rw [hcomplete] at hstep
        cases hstep
        exact .next thread id success received hpc hcall hcomplete
    · cases hstep
  | nextShutdown thread =>
    dsimp only at hstep
    split at hstep
    · next hpc =>
      split at hstep
      · next hdrained =>
        cases hstep
        exact .nextShutdown thread hpc hdrained
      · cases hstep
    · cases hstep
  | doComplete thread result =>
    dsimp only at hstep
    split at hstep
    · next hpc =>
      split at hstep
      · next hcrashes =>
        cases hstep
        exact .crash thread result hpc hcrashes
      · next hreturns =>
        cases hstep
        exact .doComplete thread result hpc hreturns
    · cases hstep
  | delete thread =>
    dsimp only at hstep
    split at hstep
    · next hpc =>
      cases hstep
      exact .delete thread hpc
    · cases hstep

def Pc.tag? : Pc → Option Nat
  | .doComplete id _ _ _ | .delete id | .crashed id => some id
  | _ => none

def hands (id : Nat) (threads : List Pc) : List Pc :=
  threads.filter fun pc => pc.tag? = some id

section hands

variable {threads : List Pc} {thread : Nat} {pc : Pc} {id : Nat}

private theorem hands_other (hpc : threads[thread]? = some pc) {pc' : Pc} (hold : pc.tag? ≠ some id)
    (hnew : pc'.tag? ≠ some id) : hands id (threads.set thread pc') = hands id threads := by
  obtain ⟨before, after, hthreads, hset⟩ := exists_set hpc
  rw [hset, hthreads]
  simp [hands, hold, hnew]

private theorem hands_take (hpc : threads[thread]? = some pc) {pc' : Pc}
    (hfree : hands id threads = [])
    (hnew : pc'.tag? = some id) : hands id (threads.set thread pc') = [pc'] := by
  obtain ⟨before, after, hthreads, hset⟩ := exists_set hpc
  rw [hthreads, hands, List.filter_append, List.append_eq_nil_iff] at hfree
  obtain ⟨hbefore, hafter⟩ := hfree
  rw [hset, hands, List.filter_append, List.filter_cons_of_pos (by simp [hnew]), hbefore]
  by_cases hold : pc.tag? = some id
  · simp [hold] at hafter
  · rw [List.filter_cons_of_neg (by simp [hold])] at hafter
    rw [hafter, List.nil_append]

private theorem hands_move (hpc : threads[thread]? = some pc) (hone : hands id threads = [pc])
    (hold : pc.tag? = some id) (pc' : Pc) :
    hands id (threads.set thread pc') = if pc'.tag? = some id then [pc'] else [] := by
  obtain ⟨before, after, hthreads, hset⟩ := exists_set hpc
  rw [hthreads, hands, List.filter_append, List.filter_cons_of_pos (by simp [hold]),
    List.append_eq_singleton_iff] at hone
  obtain ⟨hbefore, hafter⟩ : before.filter (fun pc => decide (pc.tag? = some id)) = [] ∧
      after.filter (fun pc => decide (pc.tag? = some id)) = [] := by
    rcases hone with ⟨hbefore, htail⟩ | ⟨-, htail⟩
    · exact ⟨hbefore, (List.cons.inj htail).2⟩
    · simp at htail
  rw [hset, hands, List.filter_append, List.filter_cons, hbefore, hafter]
  simp

private theorem mem_hands (hpc : threads[thread]? = some pc) (hold : pc.tag? = some id) :
    pc ∈ hands id threads :=
  List.mem_filter.mpr ⟨List.mem_of_getElem? hpc, by simp [hold]⟩

end hands

def Request.tag (r : Request) : CqTag := .clientAsyncCall r.request r.responseCb r.errorCb

def Request.taken (success : Bool) (received : Received) (r : Request) : Call Note where
  starts := 1
  outstanding := []
  log := [.start r.tag true, .complete r.tag success received]

def Request.answered (success : Bool) (received : Received) (result : Status) (r : Request) :
    Call Note :=
  doComplete r.responseCb r.errorCb success received result (r.taken success received)

/-- How a request fares: its call, the life of its tag, and the threads that have the tag
in hand. -/
inductive Story (id : Nat) : Option Request → Option (Call Note) → List Stage → List Pc → Prop
  | unasked : Story id none none [] []
  | refused (r : Request) : Story id (some r) (some (r.call false)) Stage.refused []
  | waits (r : Request) : Story id (some r) (some (r.call true)) Stage.held []
  | taken (r : Request) (success : Bool) (received : Received) :
      Story id (some r) (some (r.taken success received)) Stage.inUse
        [.doComplete id r.tag success received]
  | crashed (r : Request) (success : Bool) (received : Received) (result : Status)
      (hcrashes : Crashes success received) :
      Story id (some r) (some (r.answered success received result)) Stage.inUse [.crashed id]
  | answered (r : Request) (success : Bool) (received : Received) (result : Status)
      (hreturns : ¬ Crashes success received) :
      Story id (some r) (some (r.answered success received result)) (Stage.inUse ++ [.used])
        [.delete id]
  | finished (r : Request) (success : Bool) (received : Received) (result : Status)
      (hreturns : ¬ Crashes success received) :
      Story id (some r) (some (r.answered success received result)) Stage.done []

def Orderly (s : Stub) : Prop :=
  ∀ id, Story id s.asked[id]? s.calls[id]? (Custody.life id s.log) (hands id s.threads)

section story

variable {id : Nat} {asked : Option Request} {call : Call Note} {life : List Stage}
  {holders : List Pc}

theorem call_true (r : Request) :
    r.call true = { starts := 1, outstanding := [r.tag], log := [.start r.tag true] } := rfl

private theorem call_false_outstanding (r : Request) : (r.call false).outstanding = [] := by
  simp [Request.call, ServiceStub.asyncRequest, Call.startBatch, callErrorCb_eq]

private theorem answered_outstanding (r : Request) (success : Bool) (received : Received)
    (result : Status) : (r.answered success received result).outstanding = [] := by
  obtain ⟨ns, hns⟩ := doComplete_notes r.responseCb r.errorCb ⟨0, success, received, result⟩
    (r.taken success received)
  rw [Request.answered, hns]
  rfl

theorem Story.asked_iff {call : Option (Call Note)} (h : Story id asked call life holders) :
    asked = none ↔ call = none := by
  cases h <;> simp

theorem Story.of_unasked (h : Story id none none life holders) : life = [] ∧ holders = [] := by
  cases h
  exact ⟨rfl, rfl⟩

/-- What grpc returns is the tag of a request that waits. -/
theorem Story.waiting (h : Story id asked (some call) life holders) {success : Bool}
    {received : Received} {tag : CqTag} {call' : Call Note}
    (hcomplete : call.complete 0 success received = some (tag, call')) :
    ∃ r, asked = some r ∧ call' = r.taken success received ∧ tag = r.tag ∧ life = Stage.held ∧
      holders = [] := by
  have hnone (hempty : call.outstanding = []) : False := by
    simp [Call.complete, hempty] at hcomplete
  cases h with
  | refused r => exact (hnone (call_false_outstanding r)).elim
  | waits r =>
    rw [call_true] at hcomplete
    simp only [Call.complete, List.getElem?_cons_zero, Option.some.injEq,
      Prod.mk.injEq] at hcomplete
    obtain ⟨rfl, rfl⟩ := hcomplete
    exact ⟨r, rfl, rfl, rfl, rfl, rfl⟩
  | taken r success received => exact (hnone rfl).elim
  | crashed r success received result =>
    exact (hnone (answered_outstanding r success received result)).elim
  | answered r success received result =>
    exact (hnone (answered_outstanding r success received result)).elim
  | finished r success received result =>
    exact (hnone (answered_outstanding r success received result)).elim

theorem Story.in_hand {call : Option (Call Note)} (h : Story id asked call life holders)
    {tag : CqTag} {success : Bool} {received : Received}
    (hmem : .doComplete id tag success received ∈ holders) :
    ∃ r, asked = some r ∧ call = some (r.taken success received) ∧ tag = r.tag ∧
      life = Stage.inUse ∧ holders = [.doComplete id tag success received] := by
  cases h with
  | taken r success received =>
    obtain ⟨rfl, rfl, rfl⟩ : tag = r.tag ∧ _ ∧ _ := by simpa using hmem
    exact ⟨r, rfl, rfl, rfl, rfl, rfl⟩
  | _ => simp at hmem

theorem Story.used {call : Option (Call Note)} (h : Story id asked call life holders)
    (hmem : .delete id ∈ holders) :
    ∃ r success received result, asked = some r ∧
      call = some (r.answered success received result) ∧ life = Stage.inUse ++ [.used] ∧
      holders = [.delete id] ∧ ¬ Crashes success received := by
  cases h with
  | answered r success received result hreturns =>
    exact ⟨r, success, received, result, rfl, rfl, rfl, rfl, hreturns⟩
  | _ => simp at hmem

end story

section steps

variable {s t : Stub}

theorem Orderly.length (h : Orderly s) : s.asked.length = s.calls.length := by
  apply Nat.le_antisymm
  · exact List.getElem?_eq_none_iff.mp
      ((h s.calls.length).asked_iff.mpr (List.getElem?_eq_none (Nat.le_refl _)))
  · exact List.getElem?_eq_none_iff.mp
      ((h s.asked.length).asked_iff.mp (List.getElem?_eq_none (Nat.le_refl _)))

theorem Orderly.asyncRequest (h : Orderly s) (grpc : Nat → Bool) (r : Request) :
    Orderly (asyncRequest grpc r s) := by
  intro id
  have hstory := h id
  unfold Run.asyncRequest
  by_cases hid : s.calls.length = id
  · subst hid
    rw [List.getElem?_eq_none (Nat.le_of_eq h.length), List.getElem?_eq_none (Nat.le_refl _)]
      at hstory
    obtain ⟨hlife, hholders⟩ := hstory.of_unasked
    have hasked : (s.asked ++ [r])[s.calls.length]? = some r := by simp [← h.length]
    cases haccepted : grpc s.calls.length && !s.drained with
    | false =>
      simp only [hasked, List.getElem?_concat_length, hholders, Custody.life_append, hlife]
      simpa [Stage.refused] using Story.refused r
    | true =>
      simp only [hasked, List.getElem?_concat_length, hholders, Custody.life_append, hlife]
      simpa [Stage.held] using Story.waits r
  · have hlength := h.length
    have hasked : (s.asked ++ [r])[id]? = s.asked[id]? := by grind
    have hcalls (call : Call Note) : (s.calls ++ [call])[id]? = s.calls[id]? := by grind
    cases haccepted : grpc s.calls.length && !s.drained <;>
      simpa [hasked, hcalls, Custody.life_cons_ne hid] using hstory

theorem Orderly.next (h : Orderly s) {thread id : Nat} {success : Bool} {received : Received}
    {call call' : Call Note} {tag : CqTag} (hpc : s.threads[thread]? = some .next)
    (hcall : s.calls[id]? = some call)
    (hcomplete : call.complete 0 success received = some (tag, call')) :
    Orderly { s with
      calls := s.calls.set id call'
      threads := s.threads.set thread (.doComplete id tag success received)
      log := s.log ++ [(id, .returned)] } := by
  intro k
  have hstory := h k
  by_cases hid : id = k
  · subst hid
    rw [hcall] at hstory
    obtain ⟨r, hasked, rfl, rfl, hlife, hholders⟩ := hstory.waiting hcomplete
    have hset : (s.calls.set id (r.taken success received))[id]? =
        some (r.taken success received) :=
      List.getElem?_set_self (List.getElem?_eq_some_iff.mp hcall).1
    have hnew : (Pc.doComplete id r.tag success received).tag? = some id := rfl
    simp only [hasked, hset, hands_take hpc hholders hnew, Custody.life_append, hlife]
    simpa [Stage.inUse] using Story.taken r success received
  · simp only [List.getElem?_set_ne hid, Custody.life_append, Custody.life_cons_ne hid,
      Custody.life_nil, List.append_nil]
    rw [hands_other hpc (by simp [Pc.tag?]) (by simpa [Pc.tag?] using hid)]
    exact hstory

theorem Orderly.doComplete (h : Orderly s) {thread id : Nat} {tag : CqTag} {success : Bool}
    {received : Received} (hpc : s.threads[thread]? = some (.doComplete id tag success received))
    (result : Status) {pc : Pc} (stages : List Stage)
    (hstages : Custody.life id (stages.map (id, ·)) = stages) (hnew : pc.tag? = some id)
    (hgoes : ∀ r : Request, Story id (some r) (some (r.answered success received result))
      (Stage.inUse ++ stages) [pc]) :
    Orderly { s with
      calls := s.calls.modify id (complete tag success received result)
      threads := s.threads.set thread pc
      log := s.log ++ stages.map (id, ·) } := by
  intro k
  have hstory := h k
  by_cases hid : id = k
  · subst hid
    obtain ⟨r, hasked, hcall, rfl, hlife, hholders⟩ := hstory.in_hand (mem_hands hpc rfl)
    have hmodify : (s.calls.modify id (complete r.tag success received result))[id]? =
        some (r.answered success received result) := by
      simp [hcall, Request.answered, complete, Request.tag]
    simp only [hasked, hmodify, hands_move hpc hholders rfl, Custody.life_append, hlife, hstages,
      if_pos hnew]
    exact hgoes r
  · have hsilent : Custody.life k (stages.map (id, ·)) = [] :=
      collect_eq_nil _ _ (by simp [hid])
    simp only [List.getElem?_modify, Custody.life_append, hsilent, List.append_nil, if_neg hid,
      Option.map_eq_map, Option.map_id']
    rw [hands_other hpc (by simpa [Pc.tag?] using hid) (by simpa [hnew] using hid)]
    exact hstory

theorem Orderly.delete (h : Orderly s) {thread id : Nat}
    (hpc : s.threads[thread]? = some (.delete id)) :
    Orderly { s with
      threads := s.threads.set thread .next
      log := s.log ++ [(id, .deleted)] } := by
  intro k
  have hstory := h k
  by_cases hid : id = k
  · subst hid
    obtain ⟨r, success, received, result, hasked, hcall, hlife, hholders, hreturns⟩ :=
      hstory.used (mem_hands hpc rfl)
    simp only [hasked, hcall, hands_move hpc hholders rfl, Custody.life_append, hlife]
    simpa [Pc.tag?, Stage.done] using Story.finished r success received result hreturns
  · simp only [Custody.life_append, Custody.life_cons_ne hid, Custody.life_nil, List.append_nil]
    rw [hands_other hpc (by simpa [Pc.tag?] using hid) (by simp [Pc.tag?])]
    exact hstory

theorem Orderly.moves (h : Orderly s) {thread : Nat} {pc pc' : Pc}
    (hpc : s.threads[thread]? = some pc) (hold : pc.tag? = none) (hnew : pc'.tag? = none) :
    Orderly { s with threads := s.threads.set thread pc' } := by
  intro id
  dsimp only
  rw [hands_other hpc (by simp [hold]) (by simp [hnew])]
  exact h id

private theorem step_orderly {grpc : Nat → Bool} (h : Orderly s) {label : Label}
    (hstep : step grpc s label = some t) : Orderly t := by
  cases step_cases hstep with
  | asyncRequest r => exact h.asyncRequest grpc r
  | shutdown => exact h
  | run thread hpc hidle =>
    apply h.moves hpc
    · rcases hidle with rfl | rfl <;> rfl
    · rfl
  | next thread id success received hpc hcall hcomplete => exact h.next hpc hcall hcomplete
  | nextShutdown thread hpc hdrained => exact h.moves hpc rfl rfl
  | doComplete thread result hpc hreturns =>
    exact h.doComplete hpc result [.used] (by simp) rfl fun r => .answered r _ _ result hreturns
  | crash thread result hpc hcrashes =>
    simpa using h.doComplete hpc result [] rfl rfl fun r => by
      simpa using Story.crashed r _ _ result hcrashes
  | delete thread hpc => exact h.delete hpc

private theorem initial_orderly (n : Nat) : Orderly (initial n) := by
  intro id
  have hnone : hands id (List.replicate n .outside) = [] := by
    simp [hands, Pc.tag?]
  simpa [initial, hnone] using Story.unasked

theorem run_orderly {grpc : Nat → Bool} {n : Nat} {ls : List Label}
    (hrun : (machine grpc).run (initial n) ls = some s) : Orderly s :=
  (machine grpc).invariant (fun _ _ _ h hstep => step_orderly h hstep) (initial_orderly n) hrun

private theorem complete_outstanding (tag : CqTag) (success : Bool) (received : Received)
    (result : Status) (call : Call Note) :
    (complete tag success received result call).outstanding = call.outstanding := by
  cases tag with
  | clientAsyncCall request responseCb errorCb =>
    obtain ⟨ns, hns⟩ := doComplete_notes responseCb errorCb ⟨0, success, received, result⟩ call
    rw [complete, hns, Call.notes_outstanding]
  | _ => rfl

private theorem drained_iff : s.drained = true ↔
    s.queueShutdown = true ∧ ∀ call ∈ s.calls, call.outstanding = [] := by
  simp [Stub.drained]

private theorem step_drained {grpc : Nat → Bool} (h : s.drained = true) {label : Label}
    (hstep : step grpc s label = some t) : t.drained = true := by
  obtain ⟨hshut, hempty⟩ := drained_iff.mp h
  have hcompleted (id : Nat) (tag : CqTag) (success : Bool) (received : Received)
      (result : Status) :
      ∀ call ∈ s.calls.modify id (complete tag success received result),
        call.outstanding = [] := by
    intro call hmem
    obtain ⟨index, hindex⟩ := List.mem_iff_getElem?.mp hmem
    rw [List.getElem?_modify, Option.map_eq_map, Option.map_eq_some_iff] at hindex
    obtain ⟨old, hold, rfl⟩ := hindex
    have hnone := hempty old (List.mem_of_getElem? hold)
    split
    · rw [complete_outstanding, hnone]
    · exact hnone
  rw [drained_iff]
  cases step_cases hstep with
  | asyncRequest r =>
    refine ⟨hshut, fun call hmem => ?_⟩
    simp only [asyncRequest, h, Bool.not_true, Bool.and_false, List.mem_append,
      List.mem_singleton] at hmem
    rcases hmem with hold | rfl
    · exact hempty call hold
    · exact call_false_outstanding r
  | shutdown => exact ⟨rfl, hempty⟩
  | next thread id success received hpc hcall hcomplete =>
    have hnone := hempty _ (List.mem_of_getElem? hcall)
    simp [Call.complete, hnone] at hcomplete
  | doComplete thread result hpc => exact ⟨hshut, hcompleted _ _ _ _ result⟩
  | crash thread result hpc => exact ⟨hshut, hcompleted _ _ _ _ result⟩
  | _ => exact ⟨hshut, hempty⟩

def Returns (s : Stub) : Prop := .returned ∈ s.threads → s.drained = true

private theorem step_returns {grpc : Nat → Bool} (h : Returns s) {label : Label}
    (hstep : step grpc s label = some t) : Returns t := by
  have hback (hold : .returned ∈ s.threads) : t.drained = true := step_drained (h hold) hstep
  have hset {thread : Nat} {pc : Pc} (hne : pc ≠ .returned)
      (hmem : .returned ∈ s.threads.set thread pc) : .returned ∈ s.threads := by
    rcases List.mem_or_eq_of_mem_set hmem with hold | heq
    · exact hold
    · exact absurd heq.symm hne
  intro hmem
  cases step_cases hstep with
  | nextShutdown thread hpc hdrained => exact hdrained
  | asyncRequest r => exact hback hmem
  | shutdown => exact hback hmem
  | run thread hpc hidle => exact hback (hset (by simp) hmem)
  | next thread id success received hpc hcall hcomplete => exact hback (hset (by simp) hmem)
  | doComplete thread result hpc => exact hback (hset (by simp) hmem)
  | crash thread result hpc => exact hback (hset (by simp) hmem)
  | delete thread hpc => exact hback (hset (by simp) hmem)

end steps

/-- The callbacks of a request, when its call is over: a response is the message of its own
batch; and who has set both callbacks is told a response or an error. -/
structure Told (r : Request) (call : Call Note) : Prop where
  rested : call.outstanding = []
  one_response : (collect responseCbCall call.log).length ≤ 1
  one_error : (collect errorCbCall call.log).length ≤ 1
  own : ∀ resp ∈ collect responseCbCall call.log, ∃ received,
    .complete r.tag true received ∈ call.log ∧ received.status.ok = true ∧
      received.recvBuf = some (.readable resp)
  told : r.responseCb.isSome = true → r.errorCb.isSome = true →
    collect responseCbCall call.log ≠ [] ∨ collect errorCbCall call.log ≠ []

theorem refused_told (r : Request) : Told r (r.call false) := by
  obtain ⟨request, responseCb, errorCb⟩ := r
  cases errorCb <;> constructor <;>
    simp [Request.call, ServiceStub.asyncRequest, Call.startBatch, callErrorCb, Call.note]

def errorOf (success : Bool) (received : Received) : Option Status :=
  if !success then some (.internalError (lit "ClientAsyncCallCqTag failed."))
  else if !received.status.ok then some received.status
  else
    match received.recvBuf with
    | some .unreadable => some (.internalError (lit "Failed to read recv byte buffer."))
    | _ => none

/-- What a `DoComplete` calls that returns: the error callback, or nothing, or the response
callback with the message, and behind it the error callback if that returns an error. -/
theorem doComplete_calls (responseCb errorCb : Callback) (success : Bool) (received : Received)
    (result : Status) (c : Call Note) (hreturns : ¬ Crashes success received) :
    (∃ status : Status, errorOf success received = some status ∧
      doComplete responseCb errorCb success received result c =
        c.notes (errorCb.toList.map fun _ => .errorCb status)) ∨
    (responseCb = none ∧ doComplete responseCb errorCb success received result c = c) ∨
    (∃ cb bytes, responseCb = some cb ∧ success = true ∧ received.status.ok = true ∧
      received.recvBuf = some (.readable bytes) ∧
      doComplete responseCb errorCb success received result c =
        c.notes ([.responseCb bytes, .responseCbReturns result] ++
          if result.ok then [] else errorCb.toList.map fun _ => .errorCb result)) := by
  unfold doComplete
  cases success with
  | false => exact .inl ⟨_, rfl, callErrorCb_eq c errorCb _⟩
  | true =>
    simp only [Bool.not_true, Bool.false_eq_true, if_false]
    unfold getResponse
    cases hok : received.status.ok with
    | false =>
      refine .inl ⟨received.status, by simp [errorOf, hok], ?_⟩
      simp [hok, callErrorCb_eq]
    | true =>
      rcases hbuf : received.recvBuf with _ | bytes | _
      · exact absurd ⟨rfl, hok, hbuf⟩ hreturns
      · cases responseCb with
        | none => exact .inr (.inl ⟨rfl, by simp [getResultMsg, byteBufferToString]⟩)
        | some cb =>
          refine .inr (.inr ⟨cb, bytes, rfl, trivial, rfl, rfl, ?_⟩)
          cases hresult : result.ok <;> cases errorCb <;>
            simp [getResultMsg, byteBufferToString, callErrorCb, Call.note, Call.notes]
      · refine .inl ⟨.internalError (lit "Failed to read recv byte buffer."),
          by simp [errorOf, hok, hbuf], ?_⟩
        simp [getResultMsg, byteBufferToString, callErrorCb_eq]

theorem answered_told (r : Request) {success : Bool} {received : Received}
    (hreturns : ¬ Crashes success received) (result : Status) :
    Told r (r.answered success received result) := by
  have hrested := answered_outstanding r success received result
  obtain ⟨request, responseCb, errorCb⟩ := r
  rcases doComplete_calls responseCb errorCb success received result
      (Request.taken success received ⟨request, responseCb, errorCb⟩) hreturns with
    ⟨status, -, heq⟩ | ⟨rfl, heq⟩ | ⟨cb, bytes, rfl, rfl, hok, hbuf, heq⟩
  · cases errorCb <;> constructor <;>
      simp_all [Request.answered, Request.taken]
  · constructor <;> simp_all [Request.answered, Request.taken]
  · cases hresult : result.ok <;> cases errorCb <;> constructor <;>
      simp_all [Request.answered, Request.taken]

theorem answered_crashed (r : Request) {success : Bool} {received : Received}
    (hcrashes : Crashes success received) (result : Status) :
    r.answered success received result =
      (r.taken success received).note (.fault .getResultMsgRecvBuf) := by
  obtain ⟨rfl, hmissing⟩ := hcrashes
  exact doComplete_missing _ hmissing

/-- A request that nobody has to do anything for any more. -/
def Settled (s : Stub) (id : Nat) (r : Request) : Prop :=
  ∃ call, s.calls[id]? = some call ∧ Told r call ∧
    (Custody.life id s.log = Stage.done ∨ Custody.life id s.log = Stage.refused)

section settled

variable {grpc : Nat → Bool} {s : Stub} {id : Nat} {r : Request}

theorem Orderly.settled (h : Orderly s) (hasked : s.asked[id]? = some r)
    (hdrained : s.drained = true) (hfree : hands id s.threads = []) : Settled s id r := by
  have hstory := h id
  have hempty := (drained_iff.mp hdrained).2
  rw [hasked, hfree] at hstory
  unfold Settled
  generalize hcall : s.calls[id]? = call at hstory ⊢
  generalize Custody.life id s.log = life at hstory ⊢
  cases hstory with
  | refused r => exact ⟨_, rfl, refused_told r, .inr rfl⟩
  | waits r => simpa [call_true] using hempty _ (List.mem_of_getElem? hcall)
  | finished r success received result hreturns =>
    exact ⟨_, rfl, answered_told r hreturns result, .inl rfl⟩

/-- At any time, of each request: its tag is made, handed to grpc, returned to one thread,
completed and deleted in this order, unless the thread crashes, or refused and deleted; and
either callback was called
at most once. -/
structure Underway (s : Stub) (id : Nat) (call : Call Note) : Prop where
  life : Custody.life id s.log <+: Stage.done ∨ Custody.life id s.log = Stage.refused
  one_holder : (hands id s.threads).length ≤ 1
  one_response : (collect responseCbCall call.log).length ≤ 1
  one_error : (collect errorCbCall call.log).length ≤ 1

end settled

section progress

/-- No new work, as grpc asks behind a shutdown; what grpc has, it returns in any order and
with any outcome but an OK status without a message. -/
def Good (_ : Stub) : Label → Prop
  | .asyncRequest _ | .shutdown | .run _ => False
  | .next _ _ success received => ¬ Crashes success received
  | _ => True

/-- A thread that has not crashed, and will not with what it has in hand. -/
def Pc.Safe : Pc → Prop
  | .doComplete _ _ success received => ¬ Crashes success received
  | .crashed _ => False
  | _ => True

instance : DecidablePred Pc.Safe
  | .doComplete _ _ success received => inferInstanceAs (Decidable (¬ Crashes success received))
  | .crashed _ => inferInstanceAs (Decidable False)
  | .outside | .next | .delete _ | .returned => inferInstanceAs (Decidable True)

def Pc.weight : Pc → Nat
  | .outside | .returned | .crashed _ => 0
  | .next => 1
  | .delete _ => 2
  | .doComplete _ _ _ _ => 3

def work (s : Stub) : Nat :=
  3 * (s.calls.map fun call => call.outstanding.length).sum + (s.threads.map Pc.weight).sum

structure Done (s : Stub) : Prop where
  threads : ∀ pc ∈ s.threads, pc = .outside ∨ pc = .returned
  requests : ∀ id r, s.asked[id]? = some r → Settled s id r

structure Draining (s : Stub) : Prop where
  orderly : Orderly s
  returns : Returns s
  shut : s.queueShutdown = true
  safe : ∀ pc ∈ s.threads, pc.Safe
  running : ∃ pc ∈ s.threads, pc ≠ .outside

variable {grpc : Nat → Bool} {s t : Stub} {label : Label}

theorem Draining.alive (h : Draining s) : s.crashed = false := by
  simp only [Stub.crashed, List.any_eq_false]
  intro pc hpc
  have hsafe := h.safe pc hpc
  cases pc <;> simp_all [Pc.isCrashed, Pc.Safe]

theorem Draining.goes_on (h : Draining s) (hgood : Good s label)
    (hstep : step grpc s label = some t) : Draining t := by
  obtain ⟨pc, hpc, hinside⟩ := h.running
  obtain ⟨thread, hthread⟩ := List.mem_iff_getElem?.mp hpc
  have hset {moved : Nat} {old pc' : Pc} (hold : s.threads[moved]? = some old)
      (hnew : pc' ≠ .outside) : ∃ pc ∈ s.threads.set moved pc', pc ≠ .outside := by
    refine ⟨pc', List.mem_iff_getElem?.mpr ⟨moved, ?_⟩, hnew⟩
    exact List.getElem?_set_self (List.getElem?_eq_some_iff.mp hold).1
  have hsafe {moved : Nat} {pc' : Pc} (hnew : pc'.Safe) :
      ∀ pc ∈ s.threads.set moved pc', pc.Safe := by
    intro pc hmem
    rcases List.mem_or_eq_of_mem_set hmem with hold | rfl
    · exact h.safe pc hold
    · exact hnew
  refine ⟨step_orderly h.orderly hstep, step_returns h.returns hstep, ?_, ?_, ?_⟩
  · cases step_cases hstep <;> first | exact h.shut | exact hgood.elim
  · cases step_cases hstep with
    | next thread id success received hpc => exact hsafe hgood
    | crash thread result hpc hcrashes =>
      exact absurd hcrashes (h.safe _ (List.mem_of_getElem? hpc))
    | asyncRequest | shutdown | run => exact hgood.elim
    | _ => exact hsafe trivial
  · cases step_cases hstep with
    | next thread id success received hpc => exact hset hpc (by simp)
    | nextShutdown thread hpc => exact hset hpc (by simp)
    | doComplete thread result hpc => exact hset hpc (by simp)
    | crash thread result hpc => exact hset hpc (by simp)
    | delete thread hpc => exact hset hpc (by simp)
    | _ => exact hgood.elim

private theorem stuck_no_step (hstuck : (machine grpc).Stuck Good s) (label : Label)
    (hgood : Good s label) : step grpc s label = none := by
  cases hstep : step grpc s label with
  | none => rfl
  | some t => exact absurd hstep (hstuck label t hgood)

/-- A thread before `Next` can take any batch that is outstanding. -/
theorem Draining.drained (h : Draining s) (hstuck : (machine grpc).Stuck Good s) {thread : Nat}
    (hthread : s.threads[thread]? = some .next) : s.drained = true := by
  apply drained_iff.mpr ⟨h.shut, ?_⟩
  intro call hcall
  obtain ⟨id, hid⟩ := List.mem_iff_getElem?.mp hcall
  cases hout : call.outstanding with
  | nil => rfl
  | cons tag rest =>
    have hnone := stuck_no_step hstuck (.next thread id false {}) (by simp [Good, Crashes])
    simp [step, h.alive, hthread, hid, Call.complete, hout] at hnone

theorem Draining.ended (h : Draining s) (hstuck : (machine grpc).Stuck Good s) :
    ∀ pc ∈ s.threads, pc = .outside ∨ pc = .returned := by
  intro pc hpc
  obtain ⟨thread, hthread⟩ := List.mem_iff_getElem?.mp hpc
  have halive := h.alive
  cases pc with
  | outside => exact .inl rfl
  | returned => exact .inr rfl
  | crashed id => exact (h.safe _ hpc).elim
  | doComplete id tag success received =>
    have hreturns : ¬ Crashes success received := h.safe _ hpc
    have hnone := stuck_no_step hstuck (.doComplete thread .OK) trivial
    simp [step, halive, hthread, hreturns] at hnone
  | delete id =>
    have hnone := stuck_no_step hstuck (.delete thread) trivial
    simp [step, halive, hthread] at hnone
  | next =>
    have hnone := stuck_no_step hstuck (.nextShutdown thread) trivial
    simp [step, halive, hthread, h.drained hstuck hthread] at hnone

theorem Draining.done (h : Draining s) (hstuck : (machine grpc).Stuck Good s) : Done s := by
  have hthreads := h.ended hstuck
  have hnone (id : Nat) : hands id s.threads = [] := by
    apply List.filter_eq_nil_iff.mpr
    intro pc hpc
    rcases hthreads pc hpc with rfl | rfl <;> simp [Pc.tag?]
  obtain ⟨pc, hpc, hinside⟩ := h.running
  obtain rfl : pc = .returned := (hthreads pc hpc).resolve_left hinside
  exact ⟨hthreads, fun id r hasked => h.orderly.settled hasked (h.returns hpc) (hnone id)⟩

end progress

end GrpcCbCore.Client.ServiceStub.Run
