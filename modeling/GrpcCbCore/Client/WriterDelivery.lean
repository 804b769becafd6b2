import GrpcCbCore.Client.WriterLane

/-! What a `ClientAsyncWriterImpl` sends is what it accepted, one message at a
time, and the close batch behind it. -/
namespace GrpcCbCore.Client.WriterImpl
open GrpcCbCore.Library

variable {grpc : Nat → Bool} {s : Impl} {l : Lane StdString Unit}

section columns

theorem Writes.accepted (h : Writes s l) : collect WriterImpl.accepted s.call.log = l.accepted := by
  rw [← h.ledger.accepted]
  exact (collect_flatMap _ fun e => (sights_columns e).1).symm

theorem Writes.sent (h : Writes s l) : collect Event.sent s.call.log = l.started := by
  rw [← h.ledger.started]
  exact (collect_flatMap _ fun e => (sights_columns e).2.1).symm

theorem Writes.clean (h : Writes s l) :
    l.broken = false ↔ collect Event.failed s.call.log = [] := by
  rw [h.ledger.broke]
  exact collect_flatMap_eq_nil _ fun e => (sights_columns e).2.2.2.2.2

theorem Writes.closeAttempt (h : Writes s l) :
    collect WriterImpl.closeAttempt s.call.log = if l.closeSent then l.closing.toList else [] := by
  rw [← h.ledger.closed]
  exact (collect_flatMap _ fun e => (sights_columns e).2.2.2.2.1).symm

private theorem lawful_start_columns {before : List (Event Note)} {tag : CqTag} {ok : Bool}
    (hlaw : reading.Lawful before (.start tag ok))
    (htag : tag.message?.isSome = true ∨ tag = .clientWriterClose) :
    collect Event.failed before = [] ∧ collect WriterImpl.closeAttempt before = [] ∧
      (tag = .clientWriterClose → collect closeCall before ≠ [] ∧
        collect WriterImpl.accepted before = collect Event.finished before) := by
  obtain ⟨hbroke, hclosed, -, hclose⟩ := hlaw (htag.imp_left Option.isSome_iff_ne_none.mp)
  rw [collect_flatMap_eq_nil _ fun e => (sights_columns e).2.2.2.2.2] at hbroke
  rw [collect_flatMap _ fun e => (sights_columns e).2.2.2.2.1] at hclosed
  refine ⟨hbroke, hclosed, fun heq => ?_⟩
  obtain ⟨hasked, hdone⟩ := hclose heq
  rw [Ne, collect_flatMap_eq_nil _ fun e => (sights_columns e).2.2.2.1] at hasked
  rw [collect_flatMap _ fun e => (sights_columns e).1,
    collect_flatMap _ fun e => (sights_columns e).2.2.1] at hdone
  exact ⟨hasked, hdone⟩

private theorem lawful_write_columns {before : List (Event Note)} {request : StdString}
    (hlaw : reading.Lawful before (.note (.write request true))) :
    collect Event.failed before = [] ∧ collect closeCall before = [] := by
  obtain ⟨hbroke, hasked⟩ := hlaw (by simp [reading])
  rw [collect_flatMap_eq_nil _ fun e => (sights_columns e).2.2.2.2.2] at hbroke
  rw [collect_flatMap_eq_nil _ fun e => (sights_columns e).2.2.2.1] at hasked
  exact ⟨hbroke, hasked⟩

end columns

@[simp] def failure : Event Note → Option CqTag
  | .complete .clientWriterClose false _ => some .clientWriterClose
  | e => Event.failed e

section laws

theorem Refines.closes_last (h : Refines s l) :
    AtEach (fun before e => WriterImpl.closeAttempt e ≠ none → collect closeCall before ≠ [] ∧
      collect Event.delivered before = collect WriterImpl.accepted before) s.call.log := by
  intro before e after hlog hattempt
  have hlaw := h.lawful before e after hlog
  cases e with
  | start tag ok =>
    have htag : tag = .clientWriterClose := by simpa using hattempt
    obtain ⟨hok, -, hclose⟩ := lawful_start_columns hlaw (.inr htag)
    obtain ⟨hasked, hdone⟩ := hclose htag
    exact ⟨hasked, (Event.delivered_eq_finished hok).trans hdone.symm⟩
  | complete tag success received => simp at hattempt
  | note n => simp at hattempt

/-- A failure was an error of the write half, or came after a Close and its batch. -/
theorem Refines.failure_seen (h : Refines s l) {before after : List (Event Note)} {e : Event Note}
    (hlog : s.call.log = before ++ e :: after) (hfailed : collect failure before ≠ []) :
    collect Event.failed before ≠ [] ∨
      (collect WriterImpl.closeAttempt before ≠ [] ∧ collect closeCall before ≠ []) := by
  obtain ⟨f, hmem, hf⟩ := (collect_ne_nil _ _).mp hfailed
  by_cases hbroke : Event.failed f = none
  · right
    obtain ⟨received, rfl⟩ : ∃ received, f = .complete .clientWriterClose false received := by
      rcases f with _ | ⟨tag, _ | _, received⟩ | _
      case complete.false =>
        cases tag <;> simp_all
      all_goals simp_all
    obtain ⟨b, a, rfl⟩ := List.append_of_mem hmem
    have hsent : collect WriterImpl.closeAttempt b ≠ [] :=
      (h.begins b (.complete .clientWriterClose false received) (a ++ e :: after)
        (by simp [hlog])).2 rfl
    obtain ⟨start, hstart, hattempt⟩ := (collect_ne_nil _ _).mp hsent
    obtain ⟨b', a', rfl⟩ := List.append_of_mem hstart
    have hasked := (h.closes_last b' start _ (by rw [hlog, List.append_assoc, List.append_assoc,
      List.cons_append]) hattempt).1
    exact ⟨collect_ne_nil_append _ _ _ hsent, by
      rw [List.append_assoc]
      exact collect_ne_nil_append _ _ _ hasked⟩
  · exact .inl ((collect_ne_nil _ _).mpr ⟨f, hmem, hbroke⟩)

theorem Refines.stops (h : Refines s l) :
    AtEach (fun before e => collect failure before ≠ [] → Event.attempt e = none ∧
      ∀ request result, e = .note (.write request result) → result = false) s.call.log := by
  intro before e after hlog hfailed
  have hlaw := h.lawful before e after hlog
  have hseen := h.failure_seen hlog hfailed
  rcases e with ⟨tag, ok⟩ | _ | ⟨request, _ | _⟩ | _ | _ | _
  case start =>
    exfalso
    have hbefore : before ≠ [] := by
      rintro rfl
      exact hfailed rfl
    have htag := h.begins before _ after hlog
    rw [Begins, if_neg hbefore] at htag
    obtain ⟨hok, hunsent, -⟩ := lawful_start_columns hlaw htag
    rcases hseen with hbroke | ⟨hsent, -⟩
    · exact hbroke hok
    · exact hsent hunsent
  case note.write.true =>
    obtain ⟨hok, hunasked⟩ := lawful_write_columns hlaw
    rcases hseen with hbroke | ⟨-, hasked⟩
    · exact absurd hok hbroke
    · exact absurd hunasked hasked
  all_goals simp

theorem Refines.initMd_first (h : Refines s l) :
    (collect Event.attempt s.call.log).head? = some .clientSendInitMd ∧
    (.start .clientSendInitMd false ∈ s.call.log →
      collect Event.attempt s.call.log = [.clientSendInitMd]) := by
  obtain ⟨e, rest, hlog⟩ := List.exists_cons_of_ne_nil h.begun
  have hfirst := h.begins [] e rest hlog
  rcases e with ⟨tag, ok⟩ | _ | _ <;> simp [Begins] at hfirst
  subst hfirst
  refine ⟨by simp [hlog], fun hmem => ?_⟩
  have hrefused : ok = false := by
    obtain ⟨before, after, hsplit⟩ := List.append_of_mem hmem
    cases before with
    | nil =>
      rw [hlog] at hsplit
      simpa using (List.cons.inj hsplit).1
    | cons _ _ => simpa [Begins] using h.begins _ _ after hsplit
  have hrest : collect Event.attempt rest = [] := by
    apply collect_eq_nil
    intro x hx
    obtain ⟨before, after, rfl⟩ := List.append_of_mem hx
    exact (h.stops (.start .clientSendInitMd ok :: before) x after hlog (by simp [hrefused])).1
  simp [hlog, hrest]

end laws

/-- The initial metadata first; messages one at a time, in order, none lost; the
close batch last and once; and nothing more after a failure. -/
theorem sends_what_it_accepted {ls : List Label}
    (hrun : (machine grpc).run (clientAsyncWriterImpl grpc) ls = some s) :
    ((collect Event.attempt s.call.log).head? = some .clientSendInitMd ∧
      (.start .clientSendInitMd false ∈ s.call.log →
        collect Event.attempt s.call.log = [.clientSendInitMd])) ∧
    (s.call.outstanding.filterMap CqTag.message?).length ≤ 1 ∧
    (∀ message, .clientSendMsg message ∈ s.call.outstanding →
      s.msgQueue.head? = some message) ∧
    (s.status.ok = true →
      collect Event.sent s.call.log ++ s.msgQueue.tail = collect accepted s.call.log ∧
      (s.msgQueue ≠ [] → (s.call.outstanding.filterMap CqTag.message?).length = 1)) ∧
    ((collect closeAttempt s.call.log).length ≤ 1 ∧
      AtEach (fun before e => closeAttempt e ≠ none → collect closeCall before ≠ [] ∧
        collect Event.delivered before = collect accepted before) s.call.log) ∧
    AtEach (fun before e => collect failure before ≠ [] → Event.attempt e = none ∧
      ∀ request result, e = .note (.write request result) → result = false) s.call.log := by
  obtain ⟨l, -, h⟩ := run_refines hrun
  refine ⟨h.initMd_first, h.toTracks.one_outstanding,
    fun _ => h.toTracks.front_of_outstanding,
    fun hok => ⟨?_, h.toTracks.outstanding_of_queue h.settled hok⟩, ⟨?_, h.closes_last⟩, h.stops⟩
  · rw [h.sent, h.accepted]
    exact h.toTracks.started_append_tail h.settled hok
  · rw [h.closeAttempt]
    exact l.closed_length_le

/-- Two messages, then a Close; the second message fails. -/
def failingLabels : List Label :=
  [.op (.write [1] []), .op (.write [2] []), .op (.close true []), .complete 1 true {} [],
    .complete 1 false {} [.write [3] []]]

theorem sends_what_it_accepted_failing :
    ∃ s, (machine fun _ => true).run (clientAsyncWriterImpl fun _ => true) failingLabels = some s ∧
      (collect closeAttempt s.call.log).length ≤ 1 := by
  have hrun : (machine fun _ => true).run (clientAsyncWriterImpl fun _ => true) failingLabels =
      some _ := rfl
  exact ⟨_, hrun, (sends_what_it_accepted hrun).2.2.2.2.1.1⟩

/-- The batch of the initial metadata fails, which nobody looks at: the next
`Write` is accepted and sent. -/
theorem failed_initMd_is_not_seen :
    ∃ s, (machine fun _ => true).run (clientAsyncWriterImpl fun _ => true)
        [.complete 0 false {} [], .op (.write [1] [])] = some s ∧
      s.call.log = [.start .clientSendInitMd true, .complete .clientSendInitMd false {},
        .start (.clientSendMsg [1]) true, .note (.write [1] true)] ∧
      ¬ AtEach (fun before e => (∃ tag received, .complete tag false received ∈ before) →
        Event.attempt e = none ∧ ∀ request result,
          e = .note (.write request result) → result = false) s.call.log := by
  have hrun : (machine fun _ => true).run (clientAsyncWriterImpl fun _ => true)
      [.complete 0 false {} [], .op (.write [1] [])] = some _ := rfl
  refine ⟨_, hrun, rfl, fun hstops => ?_⟩
  have hsend := hstops [.start .clientSendInitMd true, .complete .clientSendInitMd false {}]
    (.start (.clientSendMsg [1]) true) [.note (.write [1] true)] rfl
    ⟨.clientSendInitMd, {}, by simp⟩
  simp at hsend

end GrpcCbCore.Client.WriterImpl
