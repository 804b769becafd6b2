import GrpcCbCore.Server.WriterLane

/-! What users of a `ServerWriter` rely on: messages go out in the order they
were accepted, none lost or sent twice, and the status goes last. -/
namespace GrpcCbCore.Server.WriterImpl
open GrpcCbCore.Library

variable {grpc : Nat → Bool}

private theorem handed_eq_sent {history : List (Event Note)}
    (hok : collect Event.refusedMessage history = []) :
    collect Event.handed history = collect Event.sent history := by
  induction history with
  | nil => rfl
  | cons e history ih =>
    rw [collect_cons, List.append_eq_nil_iff] at hok
    rw [collect_cons, collect_cons, ih hok.2]
    congr 2
    rcases e with ⟨tag, _ | _⟩ | _ | _ <;> simp_all

section parts

variable {s : Impl} {l : Lane StdString Status} {history : List (Event Note)}

private theorem handed_append_queue (h : Tracks s l)
    (hok : collect Event.refusedMessage s.call.log = []) :
    collect Event.handed s.call.log ++ s.queue = collect accepted s.call.log := by
  have hlive := h.refused.mpr hok
  rw [handed_eq_sent hok, h.sent, h.queue hlive, h.accepted]
  rfl

theorem Refines.outstanding_of_pending (h : Refines s l)
    (hok : collect Event.refusedMessage s.call.log = [])
    (hpending : s.queue ≠ [] ∨ (s.closeStatus.isSome = true ∧
      collect Event.statusAttempt s.call.log = [])) :
    (s.call.outstanding.filterMap CqTag.message?).length = 1 := by
  have hlive := h.refused.mpr hok
  rw [h.outstanding]
  cases hflying : l.flying with
  | some m => rfl
  | none =>
    obtain ⟨hempty, hasked⟩ := h.settled hlive hflying
    exfalso
    rw [h.queue hlive, h.closing, h.statusAttempt, hempty] at hpending
    rcases hpending with hqueue | ⟨hclose, hunsent⟩
    · exact hqueue rfl
    · rw [if_pos (hasked hclose)] at hunsent
      cases hclosing : l.closing <;> simp_all

private theorem status_goes_last (hlaw : AtEach Lawful history) :
    AtEach (fun before e => ∀ status, Event.statusAttempt e = some status →
      collect Event.handed before = collect accepted before ∧
      collect Event.finished before = collect accepted before ∧
      (collect closeCall before).head? = some status) history := by
  intro before e after hlog status hstatus
  cases e with
  | start tag ok =>
    obtain ⟨-, hidle, -, hquiet, -, hword⟩ := hlaw before _ after hlog
    obtain ⟨hdone, hfirst⟩ := hword status (by simpa using hstatus)
    exact ⟨by rw [handed_eq_sent hquiet, hidle, hdone], hdone.symm, hfirst⟩
  | complete tag success received => simp at hstatus
  | note n => simp at hstatus

private theorem nothing_after_status (hlaw : AtEach Lawful history) :
    AtEach (fun before e => collect Event.statusAttempt before ≠ [] →
      Event.handed e = none ∧ ∀ response result,
        e = .note (.asyncWrite response result) → result = false) history := by
  intro before e after hlog hsent
  have hown := hlaw before e after hlog
  rcases e with ⟨tag, ok⟩ | _ | ⟨m, _ | _⟩ | _ | _ | _ | _
  case start => exact absurd hown.2.2.1 hsent
  case note.asyncWrite.true => exact absurd hown hsent
  all_goals simp

end parts

/-- No message is lost, repeated, reordered or stranded. The status is the
first Close's; it goes out when everything accepted has completed, and after it
no message is accepted or handed over. -/
theorem delivers_in_order {n : Nat} {ls : List Label} {w : World}
    (hrun : (machine grpc).run (initial n) ls = some w)
    (hok : collect Event.refusedMessage w.impl.call.log = []) :
    collect Event.handed w.impl.call.log ++ w.impl.queue = collect accepted w.impl.call.log ∧
    (w.impl.queue ≠ [] ∨ (w.impl.closeStatus.isSome = true ∧
        collect Event.statusAttempt w.impl.call.log = []) →
      (w.impl.call.outstanding.filterMap CqTag.message?).length = 1) ∧
    AtEach (fun before e => ∀ status, Event.statusAttempt e = some status →
      collect Event.handed before = collect accepted before ∧
      collect Event.finished before = collect accepted before ∧
      (collect closeCall before).head? = some status) w.impl.call.log ∧
    AtEach (fun before e => collect Event.statusAttempt before ≠ [] →
      Event.handed e = none ∧ ∀ response result,
        e = .note (.asyncWrite response result) → result = false) w.impl.call.log := by
  obtain ⟨l, -, h⟩ := run_refines hrun
  exact ⟨handed_append_queue h.toTracks hok, h.outstanding_of_pending hok,
    status_goes_last h.lawful, nothing_after_status h.lawful⟩

/-- Two messages, the second queued behind the first, with a Close behind both. -/
def closingLabels : List Label :=
  [.call 0 (.asyncWrite [1]), .run 0, .call 1 (.write [2]), .run 1, .run 1,
    .call 0 (.asyncClose ⟨.aborted, [9]⟩), .run 0, .complete 0 true [], .complete 0 false []]

theorem delivers_in_order_closing :
    ∃ w, (machine fun _ => true).run (initial 2) closingLabels = some w ∧
      collect Event.handed w.impl.call.log ++ w.impl.queue = [[1], [2]] := by
  have hrun : (machine fun _ => true).run (initial 2) closingLabels = some _ := rfl
  exact ⟨_, hrun, (delivers_in_order hrun (by decide)).1.trans (by decide)⟩

end GrpcCbCore.Server.WriterImpl
