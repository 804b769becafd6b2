import GrpcCbCore.Common.Call

/-! `ClientSyncWriterHelper`, through which `ClientSyncWriter` and
`ClientSyncReaderWriter` write, and what a class that writes so tells of failures. -/
namespace GrpcCbCore.Client.SyncWriterHelper
open GrpcCbCore.Library

variable {Note : Type}

/-- `SyncWrite`, on the call and the status of a class; `assigned` is what its history
notes of an assignment to the status. -/
def syncWrite (assigned : Status → List Note) (grpc : Nat → Bool) (request : StdString)
    (answer : Bool × Received) (call : Call Note) (status : Status) :
    Bool × Call Note × Status :=
  if !status.ok then (false, call, status)
  else
    match call.startBatch grpc (.clientSendMsg request) with
    | (true, call) => (true, call.pluck (.clientSendMsg request) answer, status)
    | (false, call) =>
      let status := .internalError (lit "Failed to write client-side streaming.")
      (false, call.notes (assigned status), status)

theorem syncWrite_cases (assigned : Status → List Note) (grpc : Nat → Bool) (request : StdString)
    (answer : Bool × Received) (call : Call Note) (status : Status) :
    (status.ok = false ∧
      syncWrite assigned grpc request answer call status = (false, call, status)) ∨
    (status.ok = true ∧ grpc call.starts = true ∧
      syncWrite assigned grpc request answer call status =
        (true, (call.startBatch grpc (.clientSendMsg request)).2.pluck (.clientSendMsg request)
          answer, status)) ∨
    (status.ok = true ∧ grpc call.starts = false ∧
      syncWrite assigned grpc request answer call status =
        (false, (call.startBatch grpc (.clientSendMsg request)).2.notes
          (assigned (.internalError (lit "Failed to write client-side streaming."))),
          .internalError (lit "Failed to write client-side streaming."))) := by
  rcases Bool.eq_false_or_eq_true status.ok with hok | hfailed
  · rcases Bool.eq_false_or_eq_true (grpc call.starts) with hgrpc | hgrpc
    · exact .inr (.inl ⟨hok, hgrpc, by simp [syncWrite, hok, Call.startBatch, hgrpc]⟩)
    · exact .inr (.inr ⟨hok, hgrpc, by simp [syncWrite, hok, Call.startBatch, hgrpc]⟩)
  · exact .inl ⟨hfailed, by simp [syncWrite, hfailed]⟩

/-- The notes a class makes of its returns: of `Write`, and of the call that reports
the status. -/
structure Returns (Note : Type) where
  wrote : Note → Option (StdString × Bool)
  reported : Note → Option Status

/-- The last batch was of this message, accepted and completed with success. -/
def Sent (history : List (Event Note)) (request : StdString) : Prop :=
  ∃ before received, history = before ++
    [.start (.clientSendMsg request) true, .complete (.clientSendMsg request) true received]

def lost : Event Note → Option StdString
  | .start tag false | .complete tag false _ => tag.message?
  | _ => none

structure Stopped (returns : Returns Note) (e : Event Note) : Prop where
  attempt : Event.attempt e = none
  wrote : ∀ n request result, e = .note n → returns.wrote n = some (request, result) →
    result = false
  reported : ∀ n status, e = .note n → returns.reported n = some status → status.ok = false

/-- `Write` returns true just for a message that was sent, and a lost one ends the stream. -/
structure Tells (returns : Returns Note) (before : List (Event Note)) (e : Event Note) :
    Prop where
  truthful : ∀ n request result, e = .note n → returns.wrote n = some (request, result) →
    (result = true ↔ Sent before request)
  stopped : ∀ first failure rest, before = first ++ failure :: rest → lost failure ≠ none →
    Stopped returns e

structure Reports (returns : Returns Note) (call : Call Note) (status : Status) : Prop where
  law : AtEach (Tells returns) call.log
  failed : collect lost call.log ≠ [] → status.ok = false

/-- Between two calls no message is on its way. -/
structure Telling (returns : Returns Note) (call : Call Note) (status : Status) : Prop
    extends Reports returns call status where
  fresh : ∀ request, ¬ Sent call.log request

section laws

variable {grpc : Nat → Bool} {returns : Returns Note} {call : Call Note} {status : Status}

private theorem not_sent_of_last {history : List (Event Note)} {e : Event Note}
    {request : StdString}
    (he : ∀ success received, e ≠ .complete (.clientSendMsg request) success received) :
    ¬ Sent (history ++ [e]) request := by
  rintro ⟨before, received, heq⟩
  have hlast := congrArg List.getLast? heq
  simp only [List.getLast?_append, List.getLast?_cons_cons, List.getLast?_singleton,
    Option.some_or, Option.some.injEq] at hlast
  exact he true received hlast

private theorem sent_complete {history : List (Event Note)} {tag : CqTag} {success : Bool}
    {received : Received} {request : StdString} :
    Sent (history ++ [.start tag true, .complete tag success received]) request ↔
      tag = .clientSendMsg request ∧ success = true := by
  constructor
  · rintro ⟨before, received', heq⟩
    obtain ⟨-, hlast⟩ := List.append_inj' heq rfl
    simp only [List.cons.injEq, Event.complete.injEq] at hlast
    exact ⟨hlast.2.1.1, hlast.2.1.2.1⟩
  · rintro ⟨rfl, rfl⟩
    exact ⟨history, received, rfl⟩

private theorem tells_of_none (hnone : collect lost call.log = []) {e : Event Note}
    (hwrote : ∀ n, e = .note n → returns.wrote n = none) : Tells returns call.log e := by
  refine ⟨fun n request result he hn => ?_, fun first failure rest hlog hlost => ?_⟩
  · simp [hwrote n he] at hn
  · have hmem : failure ∈ call.log := by simp [hlog]
    exact absurd (collect_ne_nil lost call.log |>.mpr ⟨failure, hmem, hlost⟩) (by simp [hnone])

theorem Telling.none_lost (h : Telling returns call status) (hok : status.ok = true) :
    collect lost call.log = [] := by
  by_contra hlost
  simp [h.failed hlost] at hok

theorem Telling.start (h : Telling returns call status) (hok : status.ok = true) (tag : CqTag)
    (hmessage : tag.message? = none) :
    Telling returns (call.startBatch grpc tag).2 status := by
  have hnone := h.none_lost hok
  refine ⟨⟨h.law.snoc (tells_of_none hnone (by simp)), ?_⟩, ?_⟩
  · intro hlost
    refine absurd ?_ hlost
    rw [Call.startBatch_log, collect_append, hnone]
    cases grpc call.starts <;> simp [lost, hmessage]
  · exact fun request => not_sent_of_last (by simp)

theorem Telling.pluck (h : Telling returns call status) (hok : status.ok = true) (tag : CqTag)
    (hmessage : tag.message? = none) (answer : Bool × Received) :
    Telling returns (call.pluck tag answer) status := by
  have hnone := h.none_lost hok
  refine ⟨⟨h.law.snoc (tells_of_none hnone (by simp)), ?_⟩, ?_⟩
  · intro hlost
    refine absurd ?_ hlost
    rw [Call.pluck, collect_append, hnone]
    cases hanswer : answer.1 <;> simp [lost, hmessage]
  · refine fun request => not_sent_of_last fun success received he => ?_
    simp only [Event.complete.injEq] at he
    simp [he.1] at hmessage

theorem Telling.note (h : Telling returns call status) {n : Note} (hwrote : returns.wrote n = none)
    (hreported : ∀ st, returns.reported n = some st → status.ok = false → st.ok = false) :
    Telling returns (call.note n) status := by
  refine ⟨⟨h.law.snoc ⟨?_, ?_⟩, ?_⟩, fun _ => not_sent_of_last (by simp)⟩
  · rintro m request result he hm
    cases he
    simp [hwrote] at hm
  · intro first failure rest hlog hlost
    have hfailed := h.failed ((collect_ne_nil lost call.log).mpr
      ⟨failure, by simp [hlog], hlost⟩)
    refine ⟨rfl, ?_, ?_⟩
    · rintro m request result he hm
      cases he
      simp [hwrote] at hm
    · rintro m st he hm
      cases he
      exact hreported st hm hfailed
  · simpa [lost] using h.failed

theorem Telling.assign (h : Telling returns call status) {status' : Status}
    (hstatus : status.ok = false → status'.ok = false) : Telling returns call status' :=
  ⟨⟨h.law, fun hlost => hstatus (h.failed hlost)⟩, h.fresh⟩


private theorem tells_silent {before : List (Event Note)} {n : Note}
    (hwrote : returns.wrote n = none)
    (hreported : returns.reported n = none) : Tells returns before (.note n) := by
  refine ⟨?_, fun first failure rest _ _ => ⟨rfl, ?_, ?_⟩⟩
  · rintro m request result he hm
    cases he
    simp [hwrote] at hm
  · rintro m request result he hm
    cases he
    simp [hwrote] at hm
  · rintro m st he hm
    cases he
    simp [hreported] at hm

private theorem tells_written {history : List (Event Note)} (hlaw : AtEach (Tells returns) history)
    {n : Note} {request : StdString} {result : Bool}
    (hwrote : returns.wrote n = some (request, result)) (hreported : returns.reported n = none)
    (hsent : result = true ↔ Sent history request)
    (hlost : collect lost history ≠ [] → result = false) :
    AtEach (Tells returns) (history ++ [.note n]) := by
  refine hlaw.snoc ⟨?_, ?_⟩
  · rintro m request' result' he hm
    cases he
    cases hwrote.symm.trans hm
    exact hsent
  · intro first failure rest hlog hfailure
    refine ⟨rfl, ?_, ?_⟩
    · rintro m request' result' he hm
      cases he
      cases hwrote.symm.trans hm
      exact hlost ((collect_ne_nil lost history).mpr ⟨failure, by simp [hlog], hfailure⟩)
    · rintro m st he hm
      cases he
      simp [hreported] at hm

/-- A message is accepted whose batch is to complete without success. -/
def Loses (grpc : Nat → Bool) (answer : Bool × Received) (call : Call Note) (status : Status) :
    Prop :=
  status.ok = true ∧ grpc call.starts = true ∧ answer.1 = false

/-- A `Write` whose message is not lost so; `written` is the note of its return. -/
theorem syncWrite_telling (h : Telling returns call status) {answer : Bool × Received}
    (hkept : ¬ Loses grpc answer call status) (assigned : Status → List Note)
    (hassigned : ∀ st, ∀ n ∈ assigned st, returns.wrote n = none ∧ returns.reported n = none)
    {request : StdString} (written : Bool → Note)
    (hwrote : ∀ result, returns.wrote (written result) = some (request, result))
    (hreported : ∀ result, returns.reported (written result) = none) :
    Telling returns
      ((syncWrite assigned grpc request answer call status).2.1.note
        (written (syncWrite assigned grpc request answer call status).1))
      (syncWrite assigned grpc request answer call status).2.2 := by
  obtain ⟨hfailed, heq⟩ | ⟨hok, hgrpc, heq⟩ | ⟨hok, hgrpc, heq⟩ :=
    syncWrite_cases assigned grpc request answer call status
  · rw [heq]
    refine ⟨⟨tells_written h.law (hwrote false) (hreported false) ?_ ?_, ?_⟩, ?_⟩
    · simpa using h.fresh request
    · simp
    · exact fun _ => hfailed
    · exact fun _ => not_sent_of_last (by simp)
  · have hnone := h.none_lost hok
    have hanswer : answer.1 = true := by
      by_contra hfalse
      exact hkept ⟨hok, hgrpc, by simpa using hfalse⟩
    have hstart : AtEach (Tells returns)
        (call.startBatch grpc (.clientSendMsg request)).2.log :=
      h.law.snoc (tells_of_none hnone (by simp))
    have hnone' : collect lost (call.startBatch grpc (.clientSendMsg request)).2.log = [] := by
      simp [hnone, lost, hgrpc]
    have hcomplete : AtEach (Tells returns) ((call.startBatch grpc
        (.clientSendMsg request)).2.pluck (.clientSendMsg request) answer).log :=
      hstart.snoc (tells_of_none hnone' (by simp))
    have hlog : ((call.startBatch grpc (.clientSendMsg request)).2.pluck
        (.clientSendMsg request) answer).log = call.log ++
          [.start (.clientSendMsg request) true,
            .complete (.clientSendMsg request) answer.1 answer.2] := by
      simp [Call.pluck, hgrpc]
    have hlost : collect lost ((call.startBatch grpc (.clientSendMsg request)).2.pluck
        (.clientSendMsg request) answer).log = [] := by
      rw [hlog]
      simp [hnone, lost, hanswer]
    rw [heq]
    refine ⟨⟨tells_written hcomplete (hwrote true) (hreported true) ?_ ?_, ?_⟩, ?_⟩
    · rw [hlog, sent_complete]
      simp [hanswer]
    · exact fun hsome => absurd hlost hsome
    · intro hsome
      rw [Call.note_log, collect_append, hlost] at hsome
      simp [lost] at hsome
    · exact fun _ => not_sent_of_last (by simp)
  · have hnone := h.none_lost hok
    generalize hassign : assigned (.internalError
      (lit "Failed to write client-side streaming.")) = ns at heq
    have hstart : AtEach (Tells returns)
        (call.startBatch grpc (.clientSendMsg request)).2.log :=
      h.law.snoc (tells_of_none hnone (by simp))
    have hassign' : AtEach (Tells returns)
        ((call.startBatch grpc (.clientSendMsg request)).2.notes ns).log := by
      refine hstart.append fun e he before => ?_
      obtain ⟨n, hn, rfl⟩ := List.mem_map.mp he
      have hsilent := hassigned _ n (by rw [hassign]; exact hn)
      exact tells_silent hsilent.1 hsilent.2
    rw [heq]
    refine ⟨⟨tells_written hassign' (hwrote false) (hreported false) ?_ ?_, ?_⟩, ?_⟩
    · simp only [Bool.false_eq_true, false_iff]
      rcases List.eq_nil_or_concat ns with rfl | ⟨rest, n, rfl⟩
      · rw [Call.notes_nil]
        exact not_sent_of_last (by simp)
      · rw [List.concat_eq_append, ← Call.notes_notes]
        exact not_sent_of_last (by simp)
    · simp
    · exact fun _ => rfl
    · exact fun _ => not_sent_of_last (by simp)

/-- A message that is lost so is one that `Write` returns true for. -/
theorem syncWrite_loses {answer : Bool × Received} (hloses : Loses grpc answer call status)
    (assigned : Status → List Note) {request : StdString} (written : Bool → Note)
    (hwrote : ∀ result, returns.wrote (written result) = some (request, result)) :
    ¬ AtEach (Tells returns) ((syncWrite assigned grpc request answer call status).2.1.note
      (written (syncWrite assigned grpc request answer call status).1)).log := by
  obtain ⟨hok, hgrpc, hanswer⟩ := hloses
  obtain ⟨hfailed, -⟩ | ⟨-, -, heq⟩ | ⟨-, hrefused, -⟩ :=
    syncWrite_cases assigned grpc request answer call status
  · simp [hok] at hfailed
  · rw [heq]
    intro hlaw
    have hsent := ((hlaw (call.log ++ [.start (.clientSendMsg request) true,
      .complete (.clientSendMsg request) answer.1 answer.2]) (.note (written true)) [] (by
        simp [Call.pluck, hgrpc])).truthful _ _ _ rfl (hwrote true)).mp rfl
    simpa [hanswer] using (sent_complete.mp hsent).2
  · simp [hgrpc] at hrefused

end laws

end GrpcCbCore.Client.SyncWriterHelper
