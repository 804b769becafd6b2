import GrpcCbCore.Server.WriterProtocol

/-! What no step of a `ServerWriterImpl` undoes, and what a thread in the middle
of a `SyncWrite` or a `SyncClose` may therefore rely on. -/
namespace GrpcCbCore.Server.WriterImpl
open GrpcCbCore.Library

variable {grpc : Nat → Bool}

@[simp] def returned : Event Note → Option StdString
  | .note (.syncWriteReturns response _ _) => some response
  | _ => none

/-- What a section leaves as it was: the history, to which it adds no return of
a `SyncWrite`; a closed writer; a Close asked for. -/
structure Extends (s t : Impl) : Prop where
  log : ∃ more, t.call.log = s.call.log ++ more ∧ ∀ e ∈ more, returned e = none
  closed : s.closed = true → t.closed = true
  asked : s.closeStatus.isSome = true → t.closeStatus.isSome = true

namespace Extends

variable {s t u : Impl}

private theorem refl (s : Impl) : Extends s s :=
  ⟨⟨[], by simp⟩, id, id⟩

private theorem trans (h : Extends s t) (h' : Extends t u) : Extends s u := by
  obtain ⟨more, hmore, hquiet⟩ := h.log
  obtain ⟨rest, hrest, hquiet'⟩ := h'.log
  refine ⟨⟨more ++ rest, by rw [hrest, hmore, List.append_assoc], ?_⟩,
    h'.closed ∘ h.closed, h'.asked ∘ h.asked⟩
  simpa [or_imp, forall_and] using ⟨hquiet, hquiet'⟩

private theorem log_extends (h : Extends s t) : s.call.log <+: t.call.log := by
  obtain ⟨more, hmore, -⟩ := h.log
  rw [hmore]
  exact List.prefix_append ..

private theorem note (s : Impl) {n : Note} (hn : returned (.note n) = none) : Extends s
    (s.note n) :=
  ⟨⟨[.note n], rfl, by simpa using hn⟩, id, id⟩

end Extends

section sections

variable {s : Impl} {l : Lane StdString Status}

private theorem sendStatus_extends {status : Status} (hclosed : s.closed = false)
    (hstatus : s.closeStatus = some status) (hqueue : s.queue = []) :
    Extends s (sendStatus grpc s) := by
  rw [sendStatus_eq hclosed hstatus hqueue]
  exact ⟨⟨[.start _ _], rfl, by simp⟩, fun _ => rfl, id⟩

theorem asyncWriteSection_extends (grpc : Nat → Bool) (h : Refines s l) (response : StdString) :
    Extends s (asyncWriteSection grpc response s).2 := by
  unfold asyncWriteSection
  obtain heq | ⟨-, -, -, heq⟩ | ⟨-, -, -, -, -, heq⟩ | ⟨-, -, -, heq⟩ :=
    asyncWrite_cases grpc h response <;> rw [heq]
  · exact Extends.note s rfl
  · exact ⟨⟨[.note _], rfl, by simp⟩, id, id⟩
  · exact ⟨⟨_, List.append_assoc .., by simp⟩, id, id⟩
  · exact ⟨⟨_, List.append_assoc .., by simp⟩, fun _ => rfl, id⟩

private theorem asyncClose_extends (h : Refines s l) {n : Note} (hn : returned (.note n) = none)
    (status : Status) : Extends s (asyncClose grpc status (s.note n)) := by
  have hnote := Extends.note s hn
  obtain ⟨-, heq⟩ | ⟨-, -, -, heq⟩ | ⟨hclosed, -, -, -, hqueue, heq⟩ :=
    asyncClose_cases grpc h n status <;> rw [heq]
  · exact hnote
  · exact ⟨hnote.log, hnote.closed, fun _ => rfl⟩
  · have hasked : Extends s { s.note n with closeStatus := some status } :=
      ⟨hnote.log, hnote.closed, fun _ => rfl⟩
    exact hasked.trans (sendStatus_extends hclosed rfl hqueue)

private theorem runSection_cases (h : Refines s l) {pc pc' : Pc} {t : Impl}
    (hrun : runSection grpc pc s = some (pc', t)) :
    Extends s t ∨
    (∃ response u, pc = .syncWrite response ∧ asyncWriteSection grpc response s = (false, u) ∧
      t = u.note (.syncWriteReturns response none false)) ∨
    (∃ response ticket, pc = .syncWriteResult response ticket ∧
      t = s.note (.syncWriteReturns response (some ticket) (!s.closed))) := by
  cases pc with
  | idle => simp [runSection] at hrun
  | syncWrite response =>
    have hsection := asyncWriteSection_extends grpc h response
    simp only [runSection] at hrun
    rcases hr : asyncWriteSection grpc response s with ⟨_ | _, u⟩ <;>
      rw [hr] at hrun hsection <;> cases hrun
    · exact .inr (.inl ⟨response, u, rfl, hr, rfl⟩)
    · exact .inl hsection
  | syncWriteResult response ticket => cases hrun; exact .inr (.inr ⟨response, ticket, rfl, rfl⟩)
  | asyncWrite response => cases hrun; exact .inl (asyncWriteSection_extends grpc h response)
  | asyncClose status => cases hrun; exact .inl (asyncClose_extends h rfl status)
  | syncClose status => cases hrun; exact .inl (asyncClose_extends h rfl status)
  | write response => cases hrun; exact .inl (.refl s)
  | syncWriteWait response ticket => cases hrun; exact .inl (.refl s)
  | syncCloseWait => cases hrun; exact .inl (.refl s)

private theorem doComplete_extends (h : Refines s l) {call : Call Note} {index : Nat}
    {success : Bool} {received : Received} {tag : CqTag}
    (hcall : s.call.complete index success received = some (tag, call))
    (junk : List StdString) : Extends s (doComplete grpc tag junk { s with call := call }) := by
  have hcalled : Extends s { s with call := call } :=
    ⟨⟨[.complete tag success received], Call.complete_log hcall, by simp⟩, id, id⟩
  refine hcalled.trans ?_
  cases tag with
  | serverWriterWrite message md =>
    have hclosed := h.open_of_flying (h.completes_message hcall).1
    obtain ⟨front, rest, -, -, heq⟩ | ⟨front, -, -, heq⟩ | ⟨status, hqueue, -, hasked, heq⟩ |
      ⟨-, -, heq⟩ := tryToWriteNext_cases grpc h.toTracks hclosed call junk <;>
      rw [doComplete, heq]
    · exact ⟨⟨[.start _ _], rfl, by simp⟩, id, id⟩
    · exact ⟨⟨_, List.append_assoc .., by simp⟩, fun _ => rfl, id⟩
    · have hidle : Extends { s with call := call } { s with call := call, isSending := false } :=
        ⟨⟨[], by simp⟩, id, id⟩
      exact hidle.trans (sendStatus_extends hclosed (h.closing.trans hasked) hqueue)
    · exact ⟨⟨[], by simp⟩, id, id⟩
  | _ => exact Extends.refl _

theorem destroy_cases (grpc : Nat → Bool) (h : Refines s l)
    (hnone : (s.call.outstanding.filterMap CqTag.message?).isEmpty = true) {t : Impl}
    (ht : t = asyncClose grpc .OK
      ((s.note .destroy).check .destructorQueue (s.note .destroy).queue.isEmpty)) :
    t = asyncClose grpc .OK (s.note .destroy) ∨
      (s.closed = true ∧
        (t = s.note .destroy ∨ t = (s.note .destroy).note (.fault .destructorQueue))) := by
  cases hlive : l.broken with
  | false =>
    rw [Impl.note_queue, h.queue_empty hnone hlive] at ht
    exact .inl ht
  | true =>
    have hclosed : s.closed = true := by simp [h.closed, hlive]
    refine .inr ⟨hclosed, ?_⟩
    unfold Impl.check at ht
    split at ht
    · exact .inl (ht.trans (asyncClose_shut (s := s.note .destroy) (by simp [hclosed])))
    · exact .inr (ht.trans (asyncClose_shut (s := (s.note .destroy).note _) (by simp [hclosed])))

theorem destroy_extends (h : Refines s l)
    (hnone : (s.call.outstanding.filterMap CqTag.message?).isEmpty = true) :
    Extends s (asyncClose grpc .OK
      ((s.note .destroy).check .destructorQueue (s.note .destroy).queue.isEmpty)) := by
  obtain heq | ⟨-, heq | heq⟩ := destroy_cases grpc h hnone rfl <;> rw [heq]
  · exact asyncClose_extends h rfl .OK
  · exact Extends.note s rfl
  · exact (Extends.note s rfl).trans (Extends.note _ rfl)

end sections

/-- What a thread that waits relies on. A `SyncWrite` knows its message by the
ticket; past the wait it has seen the queue empty. -/
def Relies (s : Impl) : Pc → Prop
  | .syncWriteWait response ticket => (collect accepted s.call.log)[ticket]? = some response
  | .syncWriteResult response ticket =>
      (collect accepted s.call.log)[ticket]? = some response ∧
      (s.closed = true ∨ ticket < (collect Event.sent s.call.log).length)
  | .syncCloseWait => s.closed = true ∨ s.closeStatus.isSome = true
  | _ => True

section relies

variable {s t : Impl} {l : Lane StdString Status} {pc pc' : Pc}

theorem Relies.mono (h : Relies s pc) (hlog : s.call.log <+: t.call.log)
    (hclosed : s.closed = true → t.closed = true)
    (hasked : s.closeStatus.isSome = true → t.closeStatus.isSome = true) : Relies t pc := by
  have haccepted : collect accepted s.call.log <+: collect accepted t.call.log :=
    hlog.filterMap _
  have hsent : collect Event.sent s.call.log <+: collect Event.sent t.call.log :=
    hlog.filterMap _
  cases pc with
  | syncWriteWait response ticket => exact getElem?_extends haccepted h
  | syncWriteResult response ticket =>
    obtain ⟨hticket, hdone⟩ := h
    refine ⟨getElem?_extends haccepted hticket, hdone.imp hclosed fun hlt => ?_⟩
    exact Nat.lt_of_lt_of_le hlt hsent.length_le
  | syncCloseWait => exact h.imp hclosed hasked
  | _ => trivial

theorem Extends.relies (h : Extends s t) (hr : Relies s pc) : Relies t pc :=
  hr.mono h.log_extends h.closed h.asked

theorem Relies.note (h : Relies s pc) (n : Note) : Relies (s.note n) pc :=
  h.mono (List.prefix_append ..) id id

private theorem asyncWriteSection_accepts (h : Refines s l) {response : StdString}
    (hsection : asyncWriteSection grpc response s = (true, t)) :
    collect accepted t.call.log = collect accepted s.call.log ++ [response] := by
  unfold asyncWriteSection at hsection
  obtain heq | ⟨-, -, -, heq⟩ | ⟨-, -, -, -, -, heq⟩ | ⟨-, -, -, heq⟩ :=
    asyncWrite_cases grpc h response <;> rw [heq] at hsection <;> cases hsection <;> simp

theorem Tracks.sent_eq_accepted (h : Tracks s l) (hclosed : s.closed = false)
    (hqueue : s.queue = []) :
    collect Event.sent s.call.log = collect WriterImpl.accepted s.call.log := by
  have hempty : l.waiting = [] := (h.queue (h.live hclosed).1).symm.trans hqueue
  rw [h.sent, h.accepted, Lane.accepted, hempty, List.append_nil]

private theorem asyncCloseSection_shuts (h : Refines s l) (status : Status) :
    Relies (asyncCloseSection grpc status s) .syncCloseWait := by
  unfold asyncCloseSection
  obtain ⟨hshut, heq⟩ | ⟨-, -, -, heq⟩ | ⟨hclosed, -, -, -, hqueue, heq⟩ :=
    asyncClose_cases grpc h (.asyncClose status) status <;> rw [heq]
  · refine hshut.imp (fun hbroken => ?_) fun hasked => ?_
    · simp [h.closed, hbroken]
    · simpa [h.closing] using hasked
  · exact .inr rfl
  · rw [sendStatus_eq (s := { s.note (.asyncClose status) with closeStatus := some status })
      hclosed rfl hqueue]
    exact .inl rfl

/-- What a thread relies on next, once it has run its section. -/
theorem runSection_relies (h : Refines s l) (hr : Relies s pc)
    (hrun : runSection grpc pc s = some (pc', t)) : Relies t pc' := by
  cases pc with
  | idle => simp [runSection] at hrun
  | write response =>
    cases hrun
    split <;> trivial
  | asyncWrite response => cases hrun; trivial
  | syncWrite response =>
    simp only [runSection] at hrun
    rcases hsection : asyncWriteSection grpc response s with ⟨_ | _, u⟩ <;>
      rw [hsection] at hrun <;> cases hrun
    · trivial
    · rw [Relies, asyncWriteSection_accepts h hsection]
      simp
  | syncWriteWait response ticket =>
    cases hrun
    split
    · exact hr
    · next hsize =>
      refine ⟨hr, ?_⟩
      cases hclosed : s.closed with
      | true => exact .inl rfl
      | false =>
        have hqueue : s.queue = [] := by simpa [getQueueSize] using hsize
        rw [h.toTracks.sent_eq_accepted hclosed hqueue]
        exact .inr (List.getElem?_eq_some_iff.mp hr).1
  | syncWriteResult response ticket => cases hrun; trivial
  | asyncClose status => cases hrun; trivial
  | syncClose status => cases hrun; exact asyncCloseSection_shuts h status
  | syncCloseWait =>
    cases hrun
    split
    · exact hr
    · trivial

end relies

theorem step_cases {w w' : World} {l : Lane StdString Status} (h : Refines w.impl l)
    {label : Label} (hstep : step grpc w label = some w') :
    Extends w.impl w'.impl ∨
    (∃ thread response u, label = .run thread ∧
      w.threads[thread]? = some (.syncWrite response) ∧
      asyncWriteSection grpc response w.impl = (false, u) ∧
      w'.impl = u.note (.syncWriteReturns response none false)) ∨
    (∃ thread response ticket, label = .run thread ∧
      w.threads[thread]? = some (.syncWriteResult response ticket) ∧
      w'.impl = w.impl.note (.syncWriteReturns response (some ticket) (!w.impl.closed))) := by
  cases step_steps hstep with
  | calls => exact .inl (.refl _)
  | runs thread pc pc' impl halive hpc hrun =>
    obtain hext | ⟨response, u, rfl, hsection, himpl⟩ | ⟨response, ticket, rfl, himpl⟩ :=
      runSection_cases h hrun
    · exact .inl hext
    · exact .inr (.inl ⟨thread, response, u, rfl, hpc, hsection, himpl⟩)
    · exact .inr (.inr ⟨thread, response, ticket, rfl, hpc, himpl⟩)
  | sets => exact .inl ⟨⟨[], by simp⟩, id, id⟩
  | completes index success junk tag call hcall => exact .inl (doComplete_extends h hcall junk)
  | destroys halive hidle hnone => exact .inl (destroy_extends h hnone)
  | waits => exact .inl (.refl _)

def Ticketed (w : World) : Prop := ∀ pc ∈ w.threads, Relies w.impl pc

theorem Ticketed.at {w : World} (h : Ticketed w) {thread : Nat} {pc : Pc}
    (hpc : w.threads[thread]? = some pc) : Relies w.impl pc :=
  h pc (List.mem_of_getElem? hpc)

theorem step_log_extends {w w' : World} {l : Lane StdString Status} (h : Refines w.impl l)
    {label : Label} (hstep : step grpc w label = some w') :
    w.impl.call.log <+: w'.impl.call.log := by
  obtain hext | ⟨thread, response, u, -, -, hsection, himpl⟩ |
    ⟨thread, response, ticket, -, -, himpl⟩ := step_cases h hstep
  · exact hext.log_extends
  · have hext := asyncWriteSection_extends grpc h response
    rw [hsection] at hext
    rw [himpl]
    exact hext.log_extends.trans (List.prefix_append ..)
  · rw [himpl]
    exact List.prefix_append ..

/-- No step takes from a thread what it relies on. -/
theorem step_keeps_relies {w w' : World} {l : Lane StdString Status} (h : Refines w.impl l)
    {label : Label} (hstep : step grpc w label = some w') {pc : Pc} (hr : Relies w.impl pc) :
    Relies w'.impl pc := by
  obtain hext | ⟨thread, response, u, -, -, hsection, himpl⟩ |
    ⟨thread, response, ticket, -, -, himpl⟩ := step_cases h hstep
  · exact hext.relies hr
  · have hext := asyncWriteSection_extends grpc h response
    rw [hsection] at hext
    rw [himpl]
    exact (hext.relies hr).note _
  · rw [himpl]
    exact hr.note _

private theorem step_ticketed {w w' : World} {l : Lane StdString Status} (h : Refines w.impl l)
    (ht : Ticketed w) {label : Label} (hstep : step grpc w label = some w') : Ticketed w' := by
  have hkeeps : ∀ pc ∈ w.threads, Relies w'.impl pc := fun pc hpc =>
    step_keeps_relies h hstep (ht pc hpc)
  cases step_steps hstep with
  | calls thread request =>
    intro pc hpc
    rcases List.mem_or_eq_of_mem_set hpc with hold | rfl
    · exact hkeeps pc hold
    · cases request <;> trivial
  | runs thread pc pc' impl halive hpc hrun =>
    intro other hother
    rcases List.mem_or_eq_of_mem_set hother with hold | rfl
    · exact hkeeps other hold
    · exact runSection_relies h (ht.at hpc) hrun
  | _ => exact hkeeps

structure Reached (w : World) (l : Lane StdString Status) : Prop where
  refines : Refines w.impl l
  ages : Ages w
  ticketed : Ticketed w

theorem reached_initial (n : Nat) : Reached (initial n) Lane.fresh where
  refines := refines_fresh
  ages := ⟨fun _ => rfl, by simp [initial]⟩
  ticketed := by
    intro pc hpc
    rw [List.eq_of_mem_replicate hpc]
    trivial

theorem step_reached {w w' : World} {l : Lane StdString Status} (h : Reached w l)
    {label : Label} (hstep : step grpc w label = some w') : ∃ l', Reached w' l' := by
  obtain ⟨l', -, h'⟩ := step_refines h.refines hstep
  exact ⟨l', h', step_ages h.refines h.ages hstep, step_ticketed h.refines h.ticketed hstep⟩

end GrpcCbCore.Server.WriterImpl
