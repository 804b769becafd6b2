import GrpcCbCore.Server.WriterTickets

/-! A `ServerWriterImpl` and a message that was not delivered. The completion
callback of a message batch does not look at its success flag, so the writer goes
on as if the peer were still there. -/
namespace GrpcCbCore.Server.WriterImpl
open GrpcCbCore.Library

variable {grpc : Nat → Bool}

/-- What a writer that has stopped may still do, `first` being the history up to the
failure: hand over no message, let no `AsyncWrite` return true, and let a `SyncWrite`
return true only for a message accepted before the failure. -/
structure Stopped (first : List (Event Note)) (e : Event Note) : Prop where
  handed : Event.handed e = none
  asyncWrite : ∀ response result, e = .note (.asyncWrite response result) → result = false
  syncWrite : ∀ response ticket, e = .note (.syncWriteReturns response ticket true) →
    ∃ k, ticket = some k ∧ k < (collect accepted first).length

/-- A message batch that completed without success is the last thing a writer does. -/
def StopsOnFailure (before : List (Event Note)) (e : Event Note) : Prop :=
  ∀ first failure rest, before = first ++ failure :: rest → Event.undelivered failure ≠ none →
    Stopped first e

/-- A message fails with others queued behind it, or an `AsyncWrite` comes after such
a failure to a writer not yet closed. -/
def GoesOn (w : World) (label : Label) : Prop :=
  (∃ index junk message md, label = .complete index false junk ∧
    w.impl.call.outstanding[index]? = some (.serverWriterWrite message md) ∧
    w.impl.queue ≠ []) ∨
  (∃ thread response, label = .run thread ∧
    (w.threads[thread]? = some (.asyncWrite response) ∨
      w.threads[thread]? = some (.syncWrite response)) ∧
    collect Event.undelivered w.impl.call.log ≠ [] ∧ w.impl.closed = false)

/-- A writer that has kept to it so far. -/
structure Stopping (s : Impl) : Prop where
  law : AtEach StopsOnFailure s.call.log
  idle : collect Event.undelivered s.call.log ≠ [] → s.closed = true ∨ s.isSending = false

section laws

variable {history before : List (Event Note)} {e : Event Note}

private theorem stops_of_delivered (hnone : collect Event.undelivered before = []) :
    StopsOnFailure before e := by
  rintro first failure rest rfl hfailure
  have hall := List.filterMap_eq_nil_iff.mp hnone failure (by simp)
  exact absurd hall hfailure

private theorem stops_of_quiet (hhanded : Event.handed e = none) (haccepted : accepted e = none)
    (hreturned : returned e = none) : StopsOnFailure before e := by
  intro first failure rest _ _
  refine ⟨hhanded, ?_, ?_⟩
  · rintro response (_ | _) rfl
    · rfl
    · simp at haccepted
  · rintro response ticket rfl
    simp at hreturned

private theorem accepted_eq_of_failure {first rest : List (Event Note)} {failure : Event Note}
    (hlaw : AtEach StopsOnFailure (first ++ failure :: rest))
    (hfailure : Event.undelivered failure ≠ none) :
    collect accepted (first ++ failure :: rest) = collect accepted first := by
  have hrest : collect accepted rest = [] := by
    refine collect_eq_nil _ _ fun e he => ?_
    obtain ⟨middle, after, rfl⟩ := List.append_of_mem he
    have hstopped := hlaw (first ++ failure :: middle) e after (by simp) first failure middle rfl
      hfailure
    rcases e with _ | _ | ⟨response, _ | _⟩ | _ | _ | _ | _
    case note.asyncWrite.true => simpa using hstopped.asyncWrite response true rfl
    all_goals rfl
  have hnone : accepted failure = none := by
    rcases failure with _ | _ | _ <;> simp at hfailure ⊢
  rw [collect_append, collect_cons, hrest, hnone]
  simp

end laws

section sections

variable {s t : Impl} {l : Lane StdString Status}

theorem Stopping.note (h : Stopping s) {n : Note} (haccepted : accepted (.note n) = none)
    (hreturned : returned (.note n) = none) : Stopping (s.note n) := by
  refine ⟨h.law.snoc (stops_of_quiet rfl haccepted hreturned), ?_⟩
  simpa using h.idle

theorem Stopping.send_status (h : Stopping s) {status : Status} (hclosed : s.closed = false)
    (hstatus : s.closeStatus = some status) (hqueue : s.queue = []) :
    Stopping (sendStatus grpc s) := by
  rw [sendStatus_eq hclosed hstatus hqueue]
  exact ⟨h.law.snoc (stops_of_quiet (by simp) rfl rfl), fun _ => .inl rfl⟩

private theorem asyncWriteSection_stops (grpc : Nat → Bool) (h : Refines s l) (hs : Stopping s)
    (response : StdString)
    (hgood : collect Event.undelivered s.call.log ≠ [] → s.closed = true) :
    Stopping (asyncWriteSection grpc response s).2 := by
  unfold asyncWriteSection
  by_cases hnone : collect Event.undelivered s.call.log = []
  · obtain heq | ⟨-, -, -, heq⟩ | ⟨-, -, -, -, -, heq⟩ | ⟨-, -, -, heq⟩ :=
      asyncWrite_cases grpc h response <;> rw [heq]
    · exact hs.note (by simp) rfl
    · exact ⟨hs.law.snoc (stops_of_delivered hnone), fun hfailed => by simp [hnone] at hfailed⟩
    · refine ⟨(hs.law.snoc (stops_of_delivered hnone)).snoc (stops_of_delivered ?_),
        fun hfailed => ?_⟩
      · simp [hnone]
      · simp [hnone] at hfailed
    · refine ⟨(hs.law.snoc (stops_of_delivered hnone)).snoc (stops_of_delivered ?_),
        fun _ => .inl rfl⟩
      simp [hnone]
  · rw [asyncWrite_shut (by rw [hgood hnone, Bool.true_or])]
    exact hs.note (by simp) rfl

private theorem asyncClose_stops (h : Refines s l) (hs : Stopping s) {n : Note}
    (haccepted : accepted (.note n) = none) (hreturned : returned (.note n) = none)
    (status : Status) : Stopping (asyncClose grpc status (s.note n)) := by
  have hnote := hs.note haccepted hreturned
  obtain ⟨-, heq⟩ | ⟨-, -, -, heq⟩ | ⟨hclosed, -, -, -, hqueue, heq⟩ :=
    asyncClose_cases grpc h n status <;> rw [heq]
  · exact hnote
  · exact ⟨hnote.law, hnote.idle⟩
  · have hasked : Stopping { s.note n with closeStatus := some status } :=
      ⟨hnote.law, hnote.idle⟩
    exact hasked.send_status hclosed rfl hqueue

private theorem destroy_stops (h : Refines s l) (hs : Stopping s)
    (hnone : (s.call.outstanding.filterMap CqTag.message?).isEmpty = true) :
    Stopping (asyncClose grpc .OK
      ((s.note .destroy).check .destructorQueue (s.note .destroy).queue.isEmpty)) := by
  obtain heq | ⟨-, heq | heq⟩ := destroy_cases grpc h hnone rfl <;> rw [heq]
  · exact asyncClose_stops h hs rfl rfl .OK
  · exact hs.note rfl rfl
  · exact (hs.note rfl rfl).note rfl rfl

/-- A `SyncWrite` may return true after a failure, for a message accepted before it. -/
theorem Stopping.returns (h : Stopping s) {response : StdString} {ticket : Nat}
    (hr : Relies s (.syncWriteResult response ticket)) :
    Stopping (s.note (.syncWriteReturns response (some ticket) (!s.closed))) := by
  refine ⟨h.law.snoc ?_, by simpa using h.idle⟩
  intro first failure rest hlog hfailure
  refine ⟨rfl, fun _ _ he => by simp at he, fun _ k he => ?_⟩
  simp only [Event.note.injEq, Note.syncWriteReturns.injEq] at he
  obtain ⟨-, rfl, -⟩ := he
  refine ⟨ticket, rfl, ?_⟩
  have hlaw := h.law
  have hticket := hr.1
  rw [hlog] at hlaw hticket
  rw [accepted_eq_of_failure hlaw hfailure] at hticket
  exact (List.getElem?_eq_some_iff.mp hticket).1

private theorem runSection_stops (h : Refines s l) (hs : Stopping s) {pc pc' : Pc}
    (hr : Relies s pc) (hgood : ∀ response, pc = .asyncWrite response ∨ pc = .syncWrite response →
      collect Event.undelivered s.call.log ≠ [] → s.closed = true)
    (hrun : runSection grpc pc s = some (pc', t)) : Stopping t := by
  cases pc with
  | idle => simp [runSection] at hrun
  | asyncWrite response =>
    cases hrun
    exact asyncWriteSection_stops grpc h hs response (hgood response (.inl rfl))
  | syncWrite response =>
    have hsection := asyncWriteSection_stops grpc h hs response
      (hgood response (.inr rfl))
    simp only [runSection] at hrun
    rcases hresult : asyncWriteSection grpc response s with ⟨_ | _, u⟩ <;>
      rw [hresult] at hrun hsection <;> cases hrun
    · refine ⟨hsection.law.snoc ?_, by simpa using hsection.idle⟩
      intro first failure rest _ _
      exact ⟨rfl, fun _ _ he => by simp at he, fun _ _ he => by simp at he⟩
    · exact hsection
  | syncWriteResult response ticket => cases hrun; exact hs.returns hr
  | asyncClose status => cases hrun; exact asyncClose_stops h hs rfl rfl status
  | syncClose status => cases hrun; exact asyncClose_stops h hs rfl rfl status
  | write response => cases hrun; exact hs
  | syncWriteWait response ticket => cases hrun; exact hs
  | syncCloseWait => cases hrun; exact hs

theorem Stopping.delivered_of_flying (h : Refines s l) (hs : Stopping s) {m : StdString}
    (hflying : l.flying = some m) : collect Event.undelivered s.call.log = [] := by
  by_contra hfailed
  have hopen := h.open_of_flying hflying
  have hsending := h.sending (h.live hopen).1
  rcases hs.idle hfailed with hclosed | hidle
  · simp [hopen] at hclosed
  · simp [hidle, hflying] at hsending

private theorem doComplete_stops (h : Refines s l) (hs : Stopping s) {call : Call Note}
    {index : Nat} {success : Bool} {received : Received} {tag : CqTag}
    (hcall : s.call.complete index success received = some (tag, call))
    (hgood : ∀ message md, tag = .serverWriterWrite message md → s.queue ≠ [] → success = true)
    (junk : List StdString) : Stopping (doComplete grpc tag junk { s with call := call }) := by
  have hown : ownTag tag = true := h.own tag (Call.complete_subset hcall).1
  have hlog := Call.complete_log hcall
  have hlaw : AtEach StopsOnFailure call.log := by
    rw [hlog]
    exact hs.law.snoc (stops_of_quiet rfl rfl rfl)
  cases tag with
  | serverWriterWrite message md =>
    have hflying := (h.completes_message hcall).1
    have hclosed := h.open_of_flying hflying
    have hnone := hs.delivered_of_flying h hflying
    have hsame : s.queue ≠ [] → collect Event.undelivered call.log = [] := by
      intro hqueue
      simp [hlog, hnone, hgood message md rfl hqueue]
    have hidle : Stopping { s with call := call, isSending := false } :=
      ⟨hlaw, fun _ => .inr rfl⟩
    obtain ⟨front, rest, hwaiting, -, heq⟩ | ⟨front, hqueue, -, heq⟩ |
      ⟨status, hqueue, -, hasked, heq⟩ | ⟨-, -, heq⟩ :=
      tryToWriteNext_cases grpc h.toTracks hclosed call junk <;> rw [doComplete, heq]
    · have hqueue : s.queue ≠ [] := by simp [h.queue (h.live hclosed).1, hwaiting]
      refine ⟨hlaw.snoc (stops_of_delivered (hsame hqueue)), fun hfailed => ?_⟩
      simp [hsame hqueue] at hfailed
    · refine ⟨(hlaw.snoc (stops_of_delivered (hsame hqueue))).snoc (stops_of_quiet rfl rfl rfl),
        fun _ => .inl rfl⟩
    · exact hidle.send_status hclosed (h.closing.trans hasked) hqueue
    · exact hidle
  | serverWriterSendStatus status md =>
    refine ⟨hlaw, ?_⟩
    cases success <;> simpa [doComplete, hlog] using hs.idle
  | _ => simp [ownTag] at hown

end sections

section runs

variable {w w' : World} {l : Lane StdString Status} {label : Label}

private theorem step_stops (h : Reached w l) (hs : Stopping w.impl) (hgood : ¬ GoesOn w label)
    (hstep : step grpc w label = some w') : Stopping w'.impl := by
  cases step_steps hstep with
  | calls => exact hs
  | runs thread pc pc' impl halive hpc hrun =>
    refine runSection_stops h.refines hs (h.ticketed.at hpc) ?_ hrun
    intro response hwrite hfailed
    by_contra hopen
    refine hgood (.inr ⟨thread, response, rfl, ?_, hfailed, by simpa using hopen⟩)
    rcases hwrite with rfl | rfl
    · exact .inl hpc
    · exact .inr hpc
  | sets => exact ⟨hs.law, hs.idle⟩
  | completes index success junk tag call hcall =>
    refine doComplete_stops h.refines hs hcall ?_ junk
    rintro message md rfl hqueue
    by_contra hfails
    obtain rfl : success = false := by simpa using hfails
    exact hgood (.inl ⟨index, junk, message, md, rfl, (Call.complete_found hcall).1, hqueue⟩)
  | destroys halive hidle hnone => exact destroy_stops h.refines hs hnone
  | waits => exact hs

/-- A start of a message after a failure breaks the law. -/
theorem hands_after_failure {before : List (Event Note)}
    (hfailed : collect Event.undelivered before ≠ []) (tag : CqTag)
    (hmessage : tag.message? ≠ none) (ok : Bool) (after : List (Event Note)) :
    ¬ AtEach StopsOnFailure (before ++ .start tag ok :: after) := by
  intro hlaw
  obtain ⟨failure, hmem, hfailure⟩ := (collect_ne_nil _ _).mp hfailed
  obtain ⟨first, rest, hsplit⟩ := List.append_of_mem hmem
  exact hmessage (hlaw before _ after rfl first failure rest hsplit hfailure).handed

private theorem fails_with_queue (h : Refines w.impl l) {index : Nat} {junk : List StdString}
    {message : StdString} {md : Bool}
    (htag : w.impl.call.outstanding[index]? = some (.serverWriterWrite message md))
    (hqueue : w.impl.queue ≠ []) (hstep : step grpc w (.complete index false junk) = some w') :
    ¬ AtEach StopsOnFailure w'.impl.call.log := by
  obtain ⟨hclosed, call, hcall, rfl⟩ := step_completes_message h htag hstep
  have hfailed : collect Event.undelivered call.log ≠ [] := by
    simp [Call.complete_log hcall]
  obtain ⟨front, rest, -, -, heq⟩ | ⟨front, -, -, heq⟩ | ⟨status, hempty, -⟩ | ⟨hwaiting, -⟩ :=
    tryToWriteNext_cases grpc h.toTracks hclosed call junk
  · rw [heq]
    exact hands_after_failure hfailed _ (by simp) _ []
  · rw [heq]
    simpa using hands_after_failure hfailed (.serverWriterWrite front w.impl.sendInitMd)
      (by simp) _ [.note (.fault .tryToWriteNextPop)]
  · exact absurd hempty hqueue
  · exact absurd ((h.queue (h.live hclosed).1).trans hwaiting) hqueue

/-- An open writer at rest hands a new message over, whatever happened to the last. -/
theorem asyncWriteSection_hands {s : Impl} (grpc : Nat → Bool) (h : Refines s l)
    (hopen : s.closed = false) (hsending : s.isSending = false) (response : StdString) :
    (asyncWriteSection grpc response s).2.call.log = s.call.log ++
      [.start (.serverWriterWrite response s.sendInitMd) (grpc s.call.starts),
        .note (.asyncWrite response (grpc s.call.starts))] := by
  obtain ⟨-, -, hclosing, hqueue⟩ := h.at_rest hopen hsending
  unfold asyncWriteSection
  rw [asyncWrite_idle hopen (h.closing.trans hclosing) hsending hqueue]
  cases hok : grpc s.call.starts with
  | true => simp [sendMsg_accepted hopen hsending hok, hok]
  | false => simp [sendMsg_refused hopen hsending hok, hok]

private theorem writes_after_failure (h : Refines w.impl l) (hs : Stopping w.impl) {thread : Nat}
    {response : StdString} (hpc : w.threads[thread]? = some (.asyncWrite response) ∨
      w.threads[thread]? = some (.syncWrite response))
    (hfailed : collect Event.undelivered w.impl.call.log ≠ []) (hopen : w.impl.closed = false)
    (hstep : step grpc w (.run thread) = some w') :
    ¬ AtEach StopsOnFailure w'.impl.call.log := by
  have hsending : w.impl.isSending = false := by
    simpa [hopen] using hs.idle hfailed
  have hlog := asyncWriteSection_hands grpc h hopen hsending response
  have hbreaks := hands_after_failure hfailed
    (.serverWriterWrite response w.impl.sendInitMd) (by simp) (grpc w.impl.call.starts)
    [.note (.asyncWrite response (grpc w.impl.call.starts))]
  rw [← hlog] at hbreaks
  obtain ⟨-, pc, pc', impl, hpc', hrun, rfl⟩ := step_run hstep
  rcases hpc with hpc | hpc <;> cases hpc.symm.trans hpc'
  · cases hrun
    exact hbreaks
  · simp only [runSection] at hrun
    rcases hsection : asyncWriteSection grpc response w.impl with ⟨_ | _, u⟩ <;>
      rw [hsection] at hrun hbreaks <;> cases hrun
    · exact fun hlaw => hbreaks hlaw.of_append
    · exact hbreaks

private theorem goesOn_breaks (h : Reached w l) (hs : Stopping w.impl) (hbad : GoesOn w label)
    (hstep : step grpc w label = some w') : ¬ AtEach StopsOnFailure w'.impl.call.log := by
  obtain ⟨index, junk, message, md, rfl, htag, hqueue⟩ |
    ⟨thread, response, rfl, hpc, hfailed, hopen⟩ := hbad
  · exact fails_with_queue h.refines htag hqueue hstep
  · exact writes_after_failure h.refines hs hpc hfailed hopen hstep

end runs

/-- A writer stops on the first failed message, in every state of a run, just when none
of its steps goes on. -/
theorem stops_on_failure_iff {n : Nat} {ls : List Label} {w : World}
    (hrun : (machine grpc).run (initial n) ls = some w) :
    (machine grpc).Throughout (fun w => AtEach StopsOnFailure w.impl.call.log) (initial n) ls ↔
      (machine grpc).Along (fun w label => ¬ GoesOn w label) (initial n) ls := by
  refine Machine.throughout_iff_along
    (I := fun w => (∃ l, Reached w l) ∧ Stopping w.impl) ?_ ?_ ?_ ?_ hrun
  · exact fun w h => h.2.law
  · rintro w label w' ⟨⟨l, h⟩, hs⟩ hgood hstep
    exact ⟨step_reached h hstep, step_stops h hs hgood hstep⟩
  · rintro w label w' ⟨⟨l, h⟩, hs⟩ hbad hstep
    exact goesOn_breaks h hs (not_not.mp hbad) hstep
  · exact ⟨⟨_, reached_initial n⟩, by simp [initial], by simp [initial]⟩

/-- The last message fails with the Close behind it: a write after that returns false. -/
def closedFailureLabels : List Label :=
  [.call 0 (.asyncWrite [1]), .run 0, .call 0 (.asyncClose .OK), .run 0, .complete 0 false [],
    .call 0 (.asyncWrite [2]), .run 0]

theorem stops_on_failure_closed :
    (machine fun _ => true).Throughout (fun w => AtEach StopsOnFailure w.impl.call.log)
      (initial 1) closedFailureLabels := by
  have hrun : (machine fun _ => true).run (initial 1) closedFailureLabels = some _ := rfl
  refine (stops_on_failure_iff hrun).mpr ?_
  rw [closedFailureLabels, Machine.along_cons rfl, Machine.along_cons rfl, Machine.along_cons rfl,
    Machine.along_cons rfl, Machine.along_cons rfl, Machine.along_cons rfl,
    Machine.along_cons rfl]
  refine ⟨?_, ?_, ?_, ?_, ?_, ?_, ?_, Machine.along_nil _ _⟩ <;>
    rintro (⟨index, junk, message, md, -, -, hqueue⟩ | ⟨thread, response, -, -, hfailed, hopen⟩)
  all_goals first
    | exact absurd hqueue (by decide)
    | exact absurd hfailed (by decide)
    | exact absurd hopen (by decide)

/-- A message fails, and the next write is accepted as if nothing had happened. -/
def writesOnLabels : List Label :=
  [.call 0 (.asyncWrite [1]), .run 0, .complete 0 false [], .call 0 (.asyncWrite [2]), .run 0]

theorem failure_is_ignored :
    ∃ w, (machine fun _ => true).run (initial 1) writesOnLabels = some w ∧
      collect Event.undelivered w.impl.call.log = [[1]] ∧
      collect accepted w.impl.call.log = [[1], [2]] ∧
      ¬ AtEach StopsOnFailure w.impl.call.log := by
  have hrun : (machine fun _ => true).run (initial 1) writesOnLabels = some _ := rfl
  refine ⟨_, hrun, by decide, by decide, fun hlaw => ?_⟩
  have hstopped := hlaw _ _ [] rfl [.start (.serverWriterWrite [1] true) true,
    .note (.asyncWrite [1] true)] (.complete (.serverWriterWrite [1] true) false {})
    [.start (.serverWriterWrite [2] false) true] rfl (by decide)
  exact absurd (hstopped.asyncWrite [2] true rfl) (by decide)

end GrpcCbCore.Server.WriterImpl
