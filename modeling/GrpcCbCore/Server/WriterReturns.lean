import GrpcCbCore.Server.WriterTickets

/-! What the return of a blocking call of a `ServerWriterImpl` tells its caller.
`SyncWrite` returns whether the writer is still open, and both wait loops look
at the queue alone: neither is quite what the caller asked about. -/
namespace GrpcCbCore.Server.WriterImpl
open GrpcCbCore.Library

variable {grpc : Nat → Bool}

/-- A `SyncWrite` returns true just when the batch of its message was accepted.
Batches are accepted in the order of the messages, so that of the message with
this ticket was accepted if more batches than the ticket were. -/
def Truthful (before : List (Event Note)) : Event Note → Prop
  | .note (.syncWriteReturns response (some ticket) result) =>
      collect Event.sent before <+: collect accepted before ∧
      (collect accepted before)[ticket]? = some response ∧
      (result = true ↔ ticket < (collect Event.sent before).length)
  | .note (.syncWriteReturns response none result) =>
      collect Event.sent before <+: collect accepted before ∧
      before.getLast? = some (.note (.asyncWrite response false)) ∧ result = false
  | _ => True

/-- A `SyncWrite` comes to its return after its batch was accepted, and after
the writer closed: the status was sent, or another message refused. -/
def ReturnsLate (w : World) (label : Label) : Prop :=
  ∃ thread response ticket, label = .run thread ∧
    w.threads[thread]? = some (.syncWriteResult response ticket) ∧
    ticket < (collect Event.sent w.impl.call.log).length ∧
    (collect Event.statusAttempt w.impl.call.log ≠ [] ∨
      collect Event.refusedMessage w.impl.call.log ≠ [])

section truth

variable {s t : Impl} {l : Lane StdString Status} {w w' : World} {label : Label}

theorem Extends.truthful (h : Extends s t) (ha : AtEach Truthful s.call.log) :
    AtEach Truthful t.call.log := by
  obtain ⟨more, hmore, hquiet⟩ := h.log
  rw [hmore]
  refine ha.append fun e he before => ?_
  have hother := hquiet e he
  rcases e with _ | _ | ⟨_ | _ | _ | _ | _⟩
  case note.syncWriteReturns => simp at hother
  all_goals trivial

theorem Tracks.closed_iff (h : Tracks s l) : s.closed = true ↔
    collect Event.statusAttempt s.call.log ≠ [] ∨
      collect Event.refusedMessage s.call.log ≠ [] := by
  have hbroken := h.refused
  rw [h.closed, h.statusAttempt, Ne, Ne, ← hbroken]
  cases hsent : l.closeSent with
  | true =>
    obtain ⟨status, hstatus⟩ := Option.isSome_iff_exists.mp (l.close_last hsent).2.2
    simp [hstatus]
  | false => simp

theorem Tracks.sent_initial (h : Tracks s l) :
    collect Event.sent s.call.log <+: collect WriterImpl.accepted s.call.log := by
  rw [h.sent, h.accepted, Lane.accepted]
  exact List.prefix_append ..

private theorem returns_unaccepted (h : Refines s l) (ha : AtEach Truthful s.call.log)
    {response : StdString} (hsection : asyncWriteSection grpc response s = (false, t)) :
    AtEach Truthful (t.note (.syncWriteReturns response none false)).call.log := by
  obtain ⟨l', -, h'⟩ := asyncWrite_refines grpc h response
  have hext := asyncWriteSection_extends grpc h response
  rw [hsection] at h' hext
  have hlast : t.call.log.getLast? = some (.note (.asyncWrite response false)) := by
    simp only [asyncWriteSection, Prod.mk.injEq] at hsection
    obtain ⟨hresult, rfl⟩ := hsection
    simp [hresult]
  exact (hext.truthful ha).snoc ⟨h'.sent_initial, hlast, rfl⟩

private theorem returns_truthful (h : Refines s l) (ha : AtEach Truthful s.call.log)
    {response : StdString} {ticket : Nat} (hr : Relies s (.syncWriteResult response ticket))
    (hgood : ¬ (ticket < (collect Event.sent s.call.log).length ∧ s.closed = true)) :
    AtEach Truthful (s.note (.syncWriteReturns response (some ticket) (!s.closed))).call.log := by
  refine ha.snoc ⟨h.sent_initial, hr.1, ?_⟩
  cases hclosed : s.closed with
  | true => simpa [hclosed] using hgood
  | false => simpa [hclosed] using hr.2

private theorem step_truthful (h : Reached w l) (ha : AtEach Truthful w.impl.call.log)
    (hgood : ¬ ReturnsLate w label) (hstep : step grpc w label = some w') :
    AtEach Truthful w'.impl.call.log := by
  obtain hext | ⟨thread, response, u, -, -, hsection, himpl⟩ |
    ⟨thread, response, ticket, rfl, hpc, himpl⟩ := step_cases h.refines hstep
  · exact hext.truthful ha
  · rw [himpl]
    exact returns_unaccepted h.refines ha hsection
  · rw [himpl]
    refine returns_truthful h.refines ha (h.ticketed.at hpc) ?_
    rintro ⟨hsent, hclosed⟩
    exact hgood ⟨thread, response, ticket, rfl, hpc, hsent, h.refines.closed_iff.mp hclosed⟩

private theorem returnsLate_lies (h : Reached w l) (hbad : ReturnsLate w label)
    (hstep : step grpc w label = some w') : ¬ AtEach Truthful w'.impl.call.log := by
  obtain ⟨thread, response, ticket, rfl, hpc, hsent, hshut⟩ := hbad
  obtain ⟨-, pc, pc', impl, hpc', hrun, rfl⟩ := step_run hstep
  cases hpc.symm.trans hpc'
  cases hrun
  intro htrue
  have hclosed := h.refines.closed_iff.mpr hshut
  have hreturn := (htrue w.impl.call.log _ [] rfl).2.2.mpr hsent
  simp [hclosed] at hreturn

end truth

/-- The result of every `SyncWrite` is truthful just when none returns late. -/
theorem syncWrite_truthful_iff {n : Nat} {ls : List Label} {w : World}
    (hrun : (machine grpc).run (initial n) ls = some w) :
    (machine grpc).Throughout (fun w => AtEach Truthful w.impl.call.log) (initial n) ls ↔
      (machine grpc).Along (fun w label => ¬ ReturnsLate w label) (initial n) ls := by
  refine Machine.throughout_iff_along
    (I := fun w => (∃ l, Reached w l) ∧ AtEach Truthful w.impl.call.log) ?_ ?_ ?_ ?_ hrun
  · exact fun w h => h.2
  · rintro w label w' ⟨⟨l, h⟩, ha⟩ hgood hstep
    exact ⟨step_reached h hstep, step_truthful h ha hgood hstep⟩
  · rintro w label w' ⟨⟨l, h⟩, -⟩ hbad hstep
    exact returnsLate_lies h (not_not.mp hbad) hstep
  · exact ⟨⟨_, reached_initial n⟩, by simp [initial]⟩

/-- A `SyncWrite` on an idle writer returns before anything else happens. -/
def promptLabels : List Label := [.call 0 (.syncWrite [1]), .run 0, .run 0, .run 0]

theorem syncWrite_truthful_prompt :
    (machine fun _ => true).Throughout (fun w => AtEach Truthful w.impl.call.log) (initial 1)
      promptLabels := by
  have hrun : (machine fun _ => true).run (initial 1) promptLabels = some _ := rfl
  refine (syncWrite_truthful_iff hrun).mpr ?_
  rw [promptLabels, Machine.along_cons rfl, Machine.along_cons rfl, Machine.along_cons rfl,
    Machine.along_cons rfl]
  refine ⟨?_, ?_, ?_, ?_, Machine.along_nil _ _⟩ <;> rintro ⟨-, -, -, -, -, -, hshut⟩ <;>
    exact absurd hshut (by decide)

/-- The message of a `SyncWrite` has been sent when a Close of another thread sends
the status, and the `SyncWrite` returns after that. -/
def closedOverLabels : List Label :=
  [.call 0 (.syncWrite [1]), .run 0, .call 1 (.asyncClose .OK), .run 1, .complete 0 true [],
    .run 0, .run 0]

theorem closed_over_returns_false :
    ∃ w, (machine fun _ => true).run (initial 2) closedOverLabels = some w ∧
      .note (.syncWriteReturns [1] (some 0) false) ∈ w.impl.call.log ∧
      collect Event.delivered w.impl.call.log = [[1]] ∧
      ¬ AtEach Truthful w.impl.call.log := by
  have hrun : (machine fun _ => true).run (initial 2) closedOverLabels = some _ := rfl
  refine ⟨_, hrun, by decide, by decide, fun htrue => ?_⟩
  have hreturn := (htrue _ _ [] rfl).2.2
  exact absurd hreturn (by decide)

/-- Every accepted message has completed and the status batch was started. -/
structure AllSent (s : Impl) : Prop where
  finished : collect Event.finished s.call.log = collect accepted s.call.log
  closed : s.closed = true
  status : collect Event.statusAttempt s.call.log ≠ []

/-- What the blocking calls promise of a step: a `SyncWrite` that returns true has
everything up to its message completed, and a `SyncClose` that returns, that of the
destructor included, leaves nothing to do. -/
structure Blocks (w w' : World) : Prop where
  syncWrite : ∀ response ticket,
    w'.impl.call.log = w.impl.call.log ++
      [.note (.syncWriteReturns response (some ticket) true)] →
    (collect accepted w'.impl.call.log)[ticket]? = some response ∧
      (collect accepted w'.impl.call.log).take (ticket + 1) <+:
        collect Event.finished w'.impl.call.log
  syncClose : ∀ thread : Nat, w.threads[thread]? = some .syncCloseWait →
    w'.threads[thread]? = some .idle → AllSent w'.impl
  destructor : w.life = .destroying → w'.life = .destroyed → AllSent w'.impl

/-- A wait ends with a message in flight: `SyncClose`'s, or `SyncWrite`'s for this
very message. -/
def ReturnsEarly (w : World) (label : Label) : Prop :=
  ∃ thread, label = .run thread ∧ w.impl.isSending = true ∧
    ((w.threads[thread]? = some .syncCloseWait ∧ w.impl.queue = []) ∨
      ∃ response ticket, w.threads[thread]? = some (.syncWriteResult response ticket) ∧
        (collect Event.sent w.impl.call.log).length = ticket + 1)

section blocking

variable {s t : Impl} {l : Lane StdString Status} {w w' : World} {label : Label}

theorem Tracks.all_sent (h : Tracks s l) (hsent : l.closeSent = true) : AllSent s := by
  obtain ⟨hidle, hempty, hasked⟩ := l.close_last hsent
  obtain ⟨status, hstatus⟩ := Option.isSome_iff_exists.mp hasked
  refine ⟨?_, by simp [h.closed, hsent], by simp [h.statusAttempt, hsent, hstatus]⟩
  rw [h.finished, h.accepted, Lane.accepted_of_idle hidle hempty]

theorem Tracks.finished_initial (h : Tracks s l) :
    collect Event.finished s.call.log <+: collect WriterImpl.accepted s.call.log := by
  rw [h.finished, h.accepted, Lane.accepted, Lane.started, List.append_assoc]
  exact List.prefix_append ..

theorem Tracks.sent_length (h : Tracks s l) (hlive : l.broken = false) :
    (collect Event.sent s.call.log).length =
      (collect Event.finished s.call.log).length + if s.isSending then 1 else 0 := by
  rw [h.sent, h.finished, Lane.started, h.sending hlive]
  cases l.flying <;> simp

private theorem take_initial_iff {α : Type*} {done all : List α} (hdone : done <+: all) {k : Nat}
    (hk : k ≤ all.length) : all.take k <+: done ↔ k ≤ done.length := by
  constructor
  · intro h
    simpa [hk] using h.length_le
  · intro h
    obtain ⟨rest, rfl⟩ := hdone
    rw [List.take_append_of_le_length h]
    exact List.take_prefix ..

/-- A `SyncWrite` that finds the writer open, past its wait, has everything up to its
message completed just when that message is not the one in flight. -/
theorem syncWrite_blocks_iff (h : Refines s l) {response : StdString} {ticket : Nat}
    (hr : Relies s (.syncWriteResult response ticket)) (hopen : s.closed = false) :
    (collect accepted s.call.log).take (ticket + 1) <+: collect Event.finished s.call.log ↔
      ¬ (s.isSending = true ∧ (collect Event.sent s.call.log).length = ticket + 1) := by
  have hlength := h.sent_length (h.live hopen).1
  have hsent : ticket < (collect Event.sent s.call.log).length := by
    simpa [hopen] using hr.2
  have haccepted : ticket + 1 ≤ (collect accepted s.call.log).length :=
    Nat.le_trans hsent h.sent_initial.length_le
  rw [take_initial_iff h.finished_initial haccepted]
  cases hsending : s.isSending <;> simp [hsending] at hlength ⊢ <;> omega

/-- A writer that was asked to close is done just when no message is in flight. -/
theorem syncClose_blocks_iff (h : Refines s l) (hlive : l.broken = false)
    (hr : Relies s .syncCloseWait) : AllSent s ↔ s.isSending = false := by
  constructor
  · intro hdone
    have hlength := h.sent_length hlive
    have hbound := h.sent_initial.length_le
    rw [← hdone.finished] at hbound
    cases hsending : s.isSending with
    | false => rfl
    | true =>
      simp [hsending] at hlength
      omega
  · intro hidle
    have hflying : l.flying = none := by simpa [hidle] using h.sending hlive
    have hasked : l.closing.isSome = true := by
      rcases hr with hclosed | hstatus
      · have hsent : l.closeSent = true := by simpa [hlive] using h.closed.symm.trans hclosed
        exact (l.close_last hsent).2.2
      · simpa [h.closing] using hstatus
    exact h.all_sent ((h.settled hlive hflying).2 hasked)

private theorem syncClose_returns {thread : Nat} (hstep : step grpc w label = some w')
    (hpc : w.threads[thread]? = some .syncCloseWait)
    (hidle : w'.threads[thread]? = some .idle) :
    label = .run thread ∧ w.impl.queue = [] ∧ w'.impl = w.impl := by
  have hlt := (List.getElem?_eq_some_iff.mp hpc).1
  cases step_steps hstep with
  | calls caller request halive hcaller =>
    obtain rfl | hne := eq_or_ne caller thread
    · simp [hcaller] at hpc
    · simp [hne, hpc] at hidle
  | runs runner pc pc' impl halive hrunner hrun =>
    obtain rfl | hne := eq_or_ne runner thread
    · cases hpc.symm.trans hrunner
      cases hrun
      refine ⟨rfl, ?_, rfl⟩
      simpa [hlt, getQueueSize] using hidle
    · simp [hne, hpc] at hidle
  | _ => simp [hpc] at hidle

private theorem destructor_returns (hstep : step grpc w label = some w')
    (hlife : w.life = .destroying) (hdestroyed : w'.life = .destroyed) : w'.impl = w.impl := by
  cases step_steps hstep with
  | calls thread request halive => simp [hlife] at halive
  | runs thread pc pc' impl halive => simp [hlife] at halive
  | sets size halive => simp [hlife] at halive
  | completes => simp [hlife] at hdestroyed
  | destroys halive => simp [hlife] at halive
  | waits => rfl

private theorem step_returns_true (h : Refines w.impl l) (hstep : step grpc w label = some w')
    {response : StdString} {ticket : Nat} (hlog : w'.impl.call.log = w.impl.call.log ++
      [.note (.syncWriteReturns response (some ticket) true)]) :
    w.impl.closed = false ∧ ∃ thread, label = .run thread ∧
      w.threads[thread]? = some (.syncWriteResult response ticket) := by
  obtain hext | ⟨thread, m, u, -, -, -, himpl⟩ |
    ⟨thread, m, k, rfl, hpc, himpl⟩ := step_cases h hstep
  · obtain ⟨more, hmore, hquiet⟩ := hext.log
    rw [hlog] at hmore
    have hreturn := hquiet _ (List.append_cancel_left hmore ▸ List.mem_singleton_self _)
    simp at hreturn
  · rw [himpl] at hlog
    simpa using (List.append_inj' hlog rfl).2
  · rw [himpl] at hlog
    have hreturn := List.append_cancel_left hlog
    simp at hreturn
    obtain ⟨rfl, rfl, hopen⟩ := hreturn
    exact ⟨hopen, thread, rfl, hpc⟩

private theorem step_blocks_iff (h : Reached w l) (hstep : step grpc w label = some w')
    (hlive : l.broken = false) : Blocks w w' ↔ ¬ ReturnsEarly w label := by
  constructor
  · rintro hblocks ⟨thread, rfl, hsending, ⟨hpc, hqueue⟩ | ⟨response, ticket, hpc, hflying⟩⟩
    all_goals
      obtain ⟨-, pc, pc', impl, hpc', hrun, rfl⟩ := step_run hstep
      cases hpc.symm.trans hpc'
      cases hrun
      have hlt := (List.getElem?_eq_some_iff.mp hpc).1
    · have hdone := hblocks.syncClose thread hpc (by simp [hlt, getQueueSize, hqueue])
      have hidle := (syncClose_blocks_iff h.refines hlive (h.ticketed.at hpc)).mp hdone
      simp [hsending] at hidle
    · have hbusy : l.flying.isSome = true := (h.refines.sending hlive).symm.trans hsending
      obtain ⟨m, hm⟩ := Option.isSome_iff_exists.mp hbusy
      have hopen := h.refines.open_of_flying hm
      have htaken := (hblocks.syncWrite response ticket (by simp [hopen])).2
      refine (syncWrite_blocks_iff h.refines (h.ticketed.at hpc) hopen).mp ?_ ⟨hsending, hflying⟩
      simpa using htaken
  · intro hgood
    refine ⟨fun response ticket hlog => ?_, fun thread hpc hidle => ?_, fun hlife hdestroyed => ?_⟩
    · obtain ⟨hopen, thread, rfl, hpc⟩ := step_returns_true h.refines hstep hlog
      have hrelies := h.ticketed.at hpc
      have htaken := (syncWrite_blocks_iff h.refines hrelies hopen).mpr
        fun hearly => hgood ⟨thread, rfl, hearly.1, .inr ⟨response, ticket, hpc, hearly.2⟩⟩
      rw [hlog]
      exact ⟨by simpa using hrelies.1, by simpa using htaken⟩
    · obtain ⟨rfl, hqueue, himpl⟩ := syncClose_returns hstep hpc hidle
      rw [himpl, syncClose_blocks_iff h.refines hlive (h.ticketed.at hpc)]
      by_contra hsending
      exact hgood ⟨thread, rfl, by simpa using hsending, .inl ⟨hpc, hqueue⟩⟩
    · rw [destructor_returns hstep hlife hdestroyed]
      have hclosed := (h.ages.dying (by simp [hlife])).1
      exact h.refines.all_sent (by simpa [hlive] using h.refines.closed.symm.trans hclosed)

private theorem step_refused_eq_nil (h : Refines w.impl l) (hstep : step grpc w label = some w')
    (hok : collect Event.refused w'.impl.call.log = []) :
    collect Event.refused w.impl.call.log = [] := by
  have hmore := (step_log_extends h hstep).filterMap Event.refused
  rw [← collect, ← collect, hok] at hmore
  exact List.prefix_nil.mp hmore

private theorem refusedMessage_eq_nil {history : List (Event Note)}
    (hok : collect Event.refused history = []) : collect Event.refusedMessage history = [] := by
  refine collect_eq_nil _ _ fun e he => ?_
  have hnone := List.filterMap_eq_nil_iff.mp hok e he
  rcases e with ⟨tag, _ | _⟩ | _ | _ <;> simp at hnone ⊢

end blocking

/-- With no start refused, the blocking calls keep their promise in every step of a run
just when none returns early. -/
theorem blocks_until_done_iff {n : Nat} {ls : List Label} {w : World}
    (hrun : (machine grpc).run (initial n) ls = some w)
    (hok : collect Event.refused w.impl.call.log = []) :
    (machine grpc).Along (fun w label => ∀ w', step grpc w label = some w' → Blocks w w')
        (initial n) ls ↔
      (machine grpc).Along (fun w label => ¬ ReturnsEarly w label) (initial n) ls := by
  refine Machine.along_congr (I := fun w => ∃ l, Reached w l)
    (F := fun w => collect Event.refused w.impl.call.log = []) ?_ ?_ ?_
    ⟨_, reached_initial n⟩ hrun hok
  · rintro w label w' ⟨l, h⟩ hstep
    exact step_reached h hstep
  · rintro w label w' ⟨l, h⟩ hstep hquiet
    exact step_refused_eq_nil h.refines hstep hquiet
  · rintro w label w' ⟨l, h⟩ hquiet hstep
    have hlive : l.broken = false := h.refines.refused.mpr
      (refusedMessage_eq_nil (step_refused_eq_nil h.refines hstep hquiet))
    have hiff := step_blocks_iff h hstep hlive
    constructor
    · exact fun hall => hiff.mp (hall w' hstep)
    · intro hgood v hv
      cases hstep.symm.trans hv
      exact hiff.mpr hgood

/-- The message completes while the `SyncWrite` waits, and a `SyncClose` follows. -/
def patientLabels : List Label :=
  [.call 0 (.syncWrite [1]), .run 0, .complete 0 true [], .run 0, .run 0,
    .call 0 (.syncClose .OK), .run 0, .run 0]

theorem blocks_until_done_patient :
    (machine fun _ => true).Along
      (fun w label => ∀ w', step (fun _ => true) w label = some w' → Blocks w w') (initial 1)
      patientLabels := by
  have hrun : (machine fun _ => true).run (initial 1) patientLabels = some _ := rfl
  refine (blocks_until_done_iff hrun (by decide)).mpr ?_
  rw [patientLabels, Machine.along_cons rfl, Machine.along_cons rfl, Machine.along_cons rfl,
    Machine.along_cons rfl, Machine.along_cons rfl, Machine.along_cons rfl,
    Machine.along_cons rfl, Machine.along_cons rfl]
  refine ⟨?_, ?_, ?_, ?_, ?_, ?_, ?_, ?_, Machine.along_nil _ _⟩ <;>
    rintro ⟨thread, hlabel, hsending, -⟩
  case refine_3 => simp at hlabel
  all_goals exact absurd hsending (by decide)

/-- A `SyncWrite` on an idle writer finds the queue empty: its message is in flight. -/
theorem syncWrite_returns_in_flight :
    ∃ w, (machine fun _ => true).run (initial 1) promptLabels = some w ∧
      collect Event.refused w.impl.call.log = [] ∧
      .note (.syncWriteReturns [1] (some 0) true) ∈ w.impl.call.log ∧
      collect Event.finished w.impl.call.log = [] ∧
      ¬ (machine fun _ => true).Along
        (fun w label => ∀ w', step (fun _ => true) w label = some w' → Blocks w w') (initial 1)
        promptLabels := by
  have hrun : (machine fun _ => true).run (initial 1) promptLabels = some _ := rfl
  refine ⟨_, hrun, by decide, by decide, by decide, fun hall => ?_⟩
  have hblocks := hall [.call 0 (.syncWrite [1]), .run 0, .run 0] (.run 0) [] _ rfl rfl _ rfl
  exact absurd (hblocks.syncWrite [1] 0 rfl).2 (by decide)

end GrpcCbCore.Server.WriterImpl
